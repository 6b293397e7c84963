import OfferService.Batch.Flush
import OfferService.Crew
import OfferService.Mailbox
import OfferService.Metrics
import OfferService.Offer.Basic
import OfferService.Station
import OfferService.Ticker.Basic

/-
  OfferService.Saver.Basic

  A saver collects offers from any number of callers and has them stored in batches. One event loop
  owns the buffer. Callers hand their offers over through a mailbox with a single place, and wait
  for the loop's verdict. The loop flushes the buffer when it is full, at every tick, and when the
  saver closes; what a flush leaves behind stays in the buffer.

  This module holds the state of a saver and what can happen to it; the moves are in
  `OfferService.Saver.Step`.
-/
namespace OfferService

/-! ## Verdicts -/

/-- Why a saver refuses a request. -/
inductive SaverError where
  | zeroCapacity
  | zeroGroupCount
  | alreadyInitialized
  | notInitialized
  /-- The buffer is full, and the last flush could not empty it. -/
  | capacityReached (capacity : Nat)
  | closed
  | ticker (cause : TickerError)
  deriving DecidableEq, Repr

/-- The error in words. -/
def SaverError.message : SaverError → String
  | .zeroCapacity => "Saver capacity must be greater than zero"
  | .zeroGroupCount => "Flush group count must be greater than zero"
  | .alreadyInitialized => "Saver is already initialized"
  | .notInitialized => "Saver is not initialized"
  | .capacityReached capacity =>
    "Cannot add new offer, buffer holds " ++ toString capacity ++ " offers"
  | .closed => "Saver is closed"
  | .ticker cause => "Failed to start notifier: " ++ cause.message

namespace Saver

/-- The answer to a caller. -/
abbrev Verdict := Except SaverError Unit

/-! ## The event loop -/

/-- Why a flush runs. -/
inductive Reason where
  | capacity
  | periodic
  | final
  deriving DecidableEq, Repr

/-- The reason in words. -/
def Reason.name : Reason → String
  | .capacity => "capacity"
  | .periodic => "periodic"
  | .final => "final"

/-- The event loop. -/
inductive Loop where
  | absent
  | idle (s : Station)
  /-- A batch is with storage; afterwards the loop goes on at a station. -/
  | flushing (why : Reason) (flush : Batch.Flush Offer) (after : Station)
  deriving DecidableEq, Repr

/-! ## Closing -/

/-- What was asked of a saver so far. -/
inductive Lifecycle where
  | created
  | initialized
  | closed
  deriving DecidableEq, Repr

/-- How far the caller has come who closes the saver for all others. -/
inductive Closing where
  | nobody
  /-- Waits for the event loop. -/
  | joining (c : Caller)
  /-- Waits for the ticker. -/
  | stopping (c : Caller)
  deriving DecidableEq, Repr

/-! ## State -/

/-- A saver. -/
structure State where
  capacity : Nat
  groups : Nat
  lifecycle : Lifecycle := .created
  ticker : Ticker
  /-- Closing has begun. -/
  shutdown : Bool := false
  /-- The event loop has exited, and the ticker has stopped. -/
  stopped : Bool := false
  /-- The way of requests to the event loop. -/
  mailbox : Mailbox Caller Offer := .empty 1
  /-- Callers who have not handed over their offers. -/
  pending : List (Caller × Offer) := []
  /-- Callers who have, and wait for a verdict. -/
  awaiting : List Caller := []
  /-- Verdicts on their way to their callers. -/
  verdicts : List (Caller × Verdict) := []
  loop : Loop := .absent
  /-- The buffer; during a flush, empty. -/
  buffer : List Offer := []
  /-- The number of buffered offers that is shown; during a flush, the number before it. -/
  shown : Nat := 0
  /-- The event loop's stream of ticks. -/
  stream : Ticker.Stream := ⟨0⟩
  /-- Does the event loop still follow the ticks? -/
  followsTicks : Bool := true
  closing : Closing := .nobody
  /-- Callers who wait until somebody else has closed the saver. -/
  bystanders : List Caller := []
  deriving DecidableEq, Repr

/-- A new saver. -/
def new (capacity groups : Nat) (ticker : Ticker) : Except SaverError State :=
  if capacity = 0 then .error .zeroCapacity
  else if groups = 0 then .error .zeroGroupCount
  else .ok { capacity, groups, ticker }

/-! ## Events -/

/-- What happens in a saver. -/
inductive Event where
  | initialized (r : Verdict)
  /-- A call to save returns. -/
  | returned (c : Caller) (v : Verdict)
  | abandoned (c : Caller)
  /-- The event loop adds an offer to the buffer. -/
  | pushed (c : Caller) (o : Offer)
  /-- The event loop refuses an offer. -/
  | refused (c : Caller) (o : Offer)
  | callStarted (batch : List Offer)
  | callEnded (batch : List Offer) (r : Except Storage.Error Unit)
  | flushEnded (why : Reason) (o : Batch.Outcome Offer)
  /-- The event loop exits, and leaves so many offers in the buffer. -/
  | exited (left : Nat)
  | closeBegan (c : Caller)
  | closeReturned (c : Caller)
  | dropped
  | logged (es : List Log.Entry)

namespace Event

/-- What the event loop says at the end of a flush. -/
def flushLog (why : Reason) (o : Batch.Outcome Offer) : Log.Entry :=
  match o.error with
  | some e =>
    ⟨.warn, .saver, why.name ++ " flush persisted " ++ toString o.stored ++ " of " ++
      toString o.total ++ " offers, " ++ toString o.remaining.length ++ " retained: " ++ e.message⟩
  | none =>
    ⟨.debug, .saver, why.name ++ " flush persisted " ++ toString o.total ++ " offers"⟩

/-- What is logged about an event. -/
def log : Event → List Log.Entry
  | .flushEnded why o => o.log ++ [flushLog why o]
  | .exited left =>
    if left = 0 then []
    else [⟨.error, .saver, "Saver shut down with " ++ toString left ++ " unpersisted offers"⟩]
  | .logged es => es
  | _ => []

/-- What an event does to the counters. -/
def count (m : Metrics) : Event → Metrics
  | .flushEnded _ o =>
    match o.report with
    | some (stored, left) => m.onFlush stored left
    | none => m
  | _ => m

end Event

end Saver

end OfferService
