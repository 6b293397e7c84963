import OfferService.Api.Error
import OfferService.Api.Violation
import OfferService.Event.Basic
import OfferService.Publisher.Basic
import OfferService.Storage.Store

/-
  OfferService.Api.Job

  What is left to do for a request: one thing at a time, and what comes next depends on how it went.
  A job says nothing of who does these things, or of what happens in between.
-/
namespace OfferService.Api

/-- A job, up to its answer. -/
inductive Job where
  | answer (r : Http.Response)
  | create (o : Offer) (next : Except Storage.Error UInt64 → Job)
  | createAll (os : List Offer) (next : Except Storage.Error Nat → Job)
  | describe (id : UInt64) (next : Except Storage.Error Offer → Job)
  | list (w : Window) (next : Except Storage.Error (List Offer × PageInfo) → Job)
  | update (o : Offer) (next : Except Storage.Error Unit → Job)
  | remove (id : UInt64) (next : Except Storage.Error Unit → Job)
  /-- Hands an offer to the saver. -/
  | save (o : Offer) (next : Saver.Verdict → Job)
  /-- Sends an event to the publisher. -/
  | publish (kind : EventKind) (id : UInt64) (next : Publisher.Verdict → Job)
  /-- Changes the counters. -/
  | count (change : Metrics → Metrics) (next : Job)
  | log (es : List Log.Entry) (next : Job)

namespace Job

/-- Refuses the request. -/
def refuse (e : Error) : Job := .log e.log (.answer e.response)

/-- Goes on if the request is in order. -/
def given (input : Except Violation α) (next : α → Job) : Job :=
  match input with
  | .ok a => next a
  | .error v => refuse (.invalid v.message)

/-- Goes on if storage has answered. -/
def stored (next : α → Job) : Except Storage.Error α → Job
  | .ok a => next a
  | .error e => refuse (.storage e)

/-- Publishes an event; if that fails, nothing is said about it but in the log. -/
def announce (kind : EventKind) (id : UInt64) (next : Job) : Job :=
  .publish kind id fun
    | .ok () => next
    | .error e =>
      .log [⟨.error, .handlers, "Failed to queue " ++ kind.title ++ " event for offer " ++
        toString id.toNat ++ ": " ++ e.message⟩] next

end Job

end OfferService.Api
