import OfferService.Api.Router
import OfferService.Release
import OfferService.Saver.Step
import OfferService.Publisher.Step

/-
  OfferService.Service.Basic

  The service as a whole: stored offers, the saver and the publisher around them, counters, and the
  requests that are being handled.
-/
namespace OfferService.Service

/-! ## State -/

/-- A request that is being handled. -/
structure Handling where
  request : Http.Request
  /-- What is left to do. -/
  job : Api.Job
  /-- The first thing to do is under way, in the hands of the saver or the publisher. -/
  isWaiting : Bool := false

/-- A service. -/
structure State where
  store : Storage.Store := {}
  saver : Saver.State
  publisher : Publisher.State
  metrics : Metrics := {}
  /-- Is the service up? -/
  isReady : Bool := false
  release : Release := {}
  /-- The time of day. -/
  clock : Moment := {}
  handlings : List (Caller × Handling) := []

namespace State

/-- What is being done for a caller. -/
def handling? (s : State) (c : Caller) : Option Handling := s.handlings.lookup c

/-- Changes what is being done for a caller. -/
def setHandling (s : State) (c : Caller) (h : Handling) : State :=
  { s with handlings := s.handlings.map fun p => if p.1 = c then (c, h) else p }

/-- Nothing more is done for a caller. -/
def endHandling (s : State) (c : Caller) : State :=
  { s with handlings := s.handlings.filter fun p => p.1 ≠ c }

/-- Is no request being handled, and no flush under way? -/
def isQuiet (s : State) : Bool :=
  s.handlings.isEmpty &&
    match s.saver.loop with
    | .flushing .. => false
    | _ => true

end State

/-! ## Events -/

/-- What happens in a service. -/
inductive Event where
  | received (c : Caller) (r : Http.Request)
  | answered (c : Caller) (r : Http.Request) (answer : Http.Response)
  | saver (e : Saver.Event)
  | publisher (e : Publisher.Event)
  | logged (es : List Log.Entry)

/-- What is logged about an event. -/
def Event.log : Event → List Log.Entry
  | .received _ _ => []
  | .answered _ r answer => Api.accessLog r answer
  | .saver e => e.log
  | .publisher e => e.log
  | .logged es => es

/-! ## The end -/

/-- What a service has done. -/
structure Report where
  /-- Offers created on request. -/
  created : UInt64
  /-- Offers that the saver has stored. -/
  flushed : UInt64
  /-- Offers that the saver still has. -/
  unflushed : Nat
  deriving DecidableEq, Repr

/-- The report at a moment. -/
def State.report (s : State) : Report :=
  { created := s.metrics.created, flushed := s.metrics.flushedOffers, unflushed := s.saver.shown }

end OfferService.Service
