import OfferService.Batch.Flush
import OfferService.Metrics
import OfferService.Offer.Basic
import OfferService.Storage.Outage

/-
  OfferService.Batch.Session

  Flushes one after another, against storage that may fail on purpose.
-/
namespace OfferService.Batch

/-- A run of flushes. -/
structure Session where
  groups : Nat
  outage : Outage := {}
  /-- Are the counters told about flushes? -/
  observed : Bool := true
  /-- The calls to storage so far. -/
  calls : Nat := 0
  now : Nat := 0
  metrics : Metrics := {}
  /-- What the last flush left behind. -/
  remaining : List Offer := []

namespace Session

/-- What one flush did. -/
structure Report where
  outcome : Outcome Offer
  calls : List Storage.CallRecord

/-- Flushes offers, after those left behind by the last flush if they are carried over. -/
def flush (s : Session) (offers : List Offer) (carry : Bool) : Report × Session :=
  let items := if carry then s.remaining ++ offers else offers
  let t := Batch.flush s.outage.storageAnswer (s.calls + 1) items s.groups
  let record (c : Call Offer) : Storage.CallRecord :=
    { number := c.number, users := c.batch.map (·.userId), succeeded := c.answer.toBool,
      moment := s.now + (c.number - s.calls) * s.outage.delay }
  let metrics := match t.outcome.report with
    | some (stored, left) => if s.observed then s.metrics.onFlush stored left else s.metrics
    | none => s.metrics
  ({ outcome := t.outcome, calls := t.calls.map record },
    { s with
      calls := s.calls + t.calls.length
      now := s.now + t.calls.length * s.outage.delay
      metrics
      remaining := t.outcome.remaining })

end Session

end OfferService.Batch
