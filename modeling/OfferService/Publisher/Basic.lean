import OfferService.Crew
import OfferService.Event.Basic
import OfferService.Log
import OfferService.Mailbox
import OfferService.Station

/-
  OfferService.Publisher.Basic

  A publisher passes messages on to a sink. Senders put them into a bounded queue; one task takes
  them out and attempts to publish each, again and again with growing pauses, until the sink has
  taken it or the attempts are used up.

  This module holds the state of a publisher and what can happen to it; the moves are in
  `OfferService.Publisher.Step`.
-/
namespace OfferService

/-- A message on its way. -/
structure Envelope where
  topic : String
  key : String
  payload : String
  deriving DecidableEq, Repr

/-- The envelope of an event. -/
def Event.seal (e : Event) (topic : String) : Envelope :=
  { topic, key := topic, payload := e.toText }

/-- Why a message is not published. -/
inductive PublishError where
  | closed
  /-- The sink refused it. -/
  | sink (reason : String)
  deriving DecidableEq, Repr

/-- The error in words. -/
def PublishError.message : PublishError → String
  | .closed => "Producer is closed"
  | .sink reason => "Sink error: " ++ reason

namespace Publisher

/-- The pauses after failed attempts, in milliseconds. -/
def pauses : List Nat := [10, 100, 1000]

/-- The answer to a caller. -/
abbrev Verdict := Except PublishError Unit

/-! ## The publishing task -/

/-- What the task is doing. -/
inductive Work where
  | idle (s : Station)
  /-- The sink has a message, for which `failures` attempts have failed. -/
  | attempting (e : Envelope) (failures : Nat) (after : Station)
  /-- The task waits before it tries a message again. -/
  | pausing (e : Envelope) (failures : Nat) (after : Station)
  deriving DecidableEq, Repr

/-! ## State -/

/-- A publisher. -/
structure State where
  topic : String
  /-- Closing has begun. -/
  shutdown : Bool := false
  queue : Mailbox Caller Envelope
  /-- Senders who have found no room. -/
  pending : List (Caller × Envelope) := []
  work : Work := .idle .serving
  /-- The messages taken from the queue after the end. -/
  drained : Nat := 0
  /-- Has a caller taken it on to wait for the task? -/
  hasCloser : Bool := false
  /-- The caller who waits for the task. -/
  closer : Option Caller := none
  deriving DecidableEq, Repr

/-- A new publisher; its queue holds at least one message. -/
def new (topic : String) (capacity : Nat) : State :=
  { topic, queue := .empty (max capacity 1) }

/-! ## Events -/

/-- What happens in a publisher. -/
inductive Event where
  /-- A call to send returns. -/
  | returned (c : Caller) (v : Verdict)
  | queued (c : Caller) (e : Envelope)
  | attemptStarted (e : Envelope)
  | attemptEnded (e : Envelope) (r : Verdict)
  /-- The message has used up its attempts. -/
  | gaveUp (e : Envelope) (cause : PublishError)
  | exited (drained : Nat)
  | closeBegan (c : Caller)
  | closeReturned (c : Caller)
  | dropped
  | logged (es : List Log.Entry)

/-- What is logged about an event. -/
def Event.log : Event → List Log.Entry
  | .attemptEnded e (.error cause) =>
    [⟨.warn, .producer, "Failed to publish message to " ++ e.topic ++ ", retrying: " ++
      cause.message⟩]
  | .gaveUp e cause =>
    [⟨.error, .producer, "Dropping message for " ++ e.topic ++ " after " ++
      toString pauses.length ++ " retries: " ++ cause.message ++ " (" ++ e.payload ++ ")"⟩]
  | .exited drained =>
    if drained = 0 then []
    else [⟨.debug, .producer,
      "Published " ++ toString drained ++ " queued messages during shutdown"⟩]
  | .logged es => es
  | _ => []

end Publisher

end OfferService
