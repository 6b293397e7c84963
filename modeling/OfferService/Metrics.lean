/-
  OfferService.Metrics

  The counters of the service. They have 64 bits and start again from zero when they run over.
-/
namespace OfferService

/-- The counters. -/
structure Metrics where
  /-- Requests handled by the offer interface. -/
  requests : UInt64 := 0
  created : UInt64 := 0
  updated : UInt64 := 0
  removed : UInt64 := 0
  /-- Offers that flushes have stored. -/
  flushedOffers : UInt64 := 0
  /-- Flushes that left offers behind. -/
  flushFailures : UInt64 := 0
  /-- Offers that the last flush left behind. -/
  retainedOffers : UInt64 := 0
  deriving DecidableEq, Repr, Inhabited

namespace Metrics

/-- A request has arrived. -/
def onRequest (m : Metrics) : Metrics := { m with requests := m.requests + 1 }

/-- `count` offers were created. -/
def onCreated (m : Metrics) (count : Nat) : Metrics :=
  { m with created := m.created + UInt64.ofNat count }

/-- An offer was updated. -/
def onUpdated (m : Metrics) : Metrics := { m with updated := m.updated + 1 }

/-- An offer was removed. -/
def onRemoved (m : Metrics) : Metrics := { m with removed := m.removed + 1 }

/-- A flush has stored `persisted` offers and left `retained` behind. -/
def onFlush (m : Metrics) (persisted retained : Nat) : Metrics :=
  { m with
    flushedOffers := m.flushedOffers + UInt64.ofNat persisted
    flushFailures := if 0 < retained then m.flushFailures + 1 else m.flushFailures
    retainedOffers := UInt64.ofNat retained }

/-- The counters in their usual order. -/
def toList (m : Metrics) : List UInt64 :=
  [m.requests, m.created, m.updated, m.removed, m.flushedOffers, m.flushFailures,
    m.retainedOffers]

end Metrics

end OfferService
