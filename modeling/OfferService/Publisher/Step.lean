import OfferService.Publisher.Basic

/-
  OfferService.Publisher.Step

  The moves of a publisher. Each action is one uninterrupted move of one party: a caller, the
  publishing task, the sink, or whoever holds the publisher. An action that cannot be taken in a
  state gives nothing; who acts when is left open.

  What a sender does from one wait to the next is a single action: it looks whether the publisher is
  closed, takes a place in the queue and puts its message there. That somebody closes the publisher
  in the middle of this, on another thread, between the place and the message, is not described
  here; a close comes before all of it or after all of it.
-/
namespace OfferService.Publisher

/-- A state, and what happened on the way to it. -/
abbrev Moved := State × List Event

/-! ## The publishing task -/

/-- Gives a message to the sink. -/
def attempt (s : State) (e : Envelope) (failures : Nat) (after : Station) : Moved :=
  ({ s with work := .attempting e failures after }, [.attemptStarted e])

/-- The sink answers an attempt. -/
def answer (s : State) (r : Verdict) : Option Moved :=
  match s.work with
  | .attempting e failures after =>
    match r with
    | .ok () => some ({ s with work := .idle after }, [.attemptEnded e r])
    | .error cause =>
      if failures < pauses.length then
        some ({ s with work := .pausing e (failures + 1) after }, [.attemptEnded e r])
      else some ({ s with work := .idle after }, [.attemptEnded e r, .gaveUp e cause])
  | _ => none

/-- How long the task pauses after so many failures. -/
def pause (failures : Nat) : Nat := pauses.getD (failures - 1) 0

/-- One move of the task. The end comes before messages. -/
def taskMove (s : State) : Option Moved :=
  match s.work with
  | .idle .serving =>
    if s.shutdown then some ({ s with work := .idle .draining, queue := s.queue.close }, [])
    else
      match s.queue.take? with
      | some ((_, e), queue) => some (attempt { s with queue } e 0 .serving)
      | none => none
  | .idle .draining =>
    match s.queue.take? with
    | some ((_, e), queue) =>
      some (attempt { s with queue, drained := s.drained + 1 } e 0 .draining)
    | none => some ({ s with work := .idle .exited }, [.exited s.drained])
  | .pausing e failures after => some (attempt s e failures after)
  | _ => none

/-! ## Senders -/

/-- A sender with a place in the queue puts its message there. -/
def handOver (s : State) (c : Caller) (e : Envelope) : Moved :=
  ({ s with queue := s.queue.enter c e }, [.queued c e, .returned c (.ok ())])

/-- A caller begins to send a message. -/
def send (s : State) (c : Caller) (e : Envelope) : Moved :=
  if s.shutdown then (s, [.returned c (.error .closed)])
  else
    let s := { s with queue := s.queue.request c }
    if s.queue.admits c then handOver s c e
    else ({ s with pending := s.pending ++ [(c, e)] }, [])

/-- A sender who waited for a place looks again. -/
def resume (s : State) (c : Caller) : Option Moved :=
  match s.pending.lookup c with
  | none => none
  | some e =>
    let left := { s with pending := s.pending.filter fun p => p.1 ≠ c }
    if s.shutdown ∨ s.queue.isClosed then
      some ({ left with queue := s.queue.withdraw c }, [.returned c (.error .closed)])
    else if s.queue.admits c then some (handOver left c e)
    else none

/-! ## Closing -/

/-- A caller begins to close the publisher. The first one waits for the task; later ones return at
    once. -/
def beginClose (s : State) (c : Caller) : Moved :=
  if s.hasCloser then ({ s with shutdown := true }, [.closeBegan c, .closeReturned c])
  else ({ s with shutdown := true, hasCloser := true, closer := some c }, [.closeBegan c])

/-- The caller who waits for the task looks again. -/
def resumeClose (s : State) (c : Caller) : Option Moved :=
  if s.closer = some c ∧ s.work = .idle .exited then
    some ({ s with closer := none },
      [.logged [⟨.info, .producer, "Event producer closed"⟩], .closeReturned c])
  else none

/-- Nobody holds the publisher any more. -/
def drop (s : State) : Moved := ({ s with shutdown := true }, [.dropped])

/-! ## All actions -/

/-- What can be done to a publisher. -/
inductive Action where
  | send (c : Caller) (e : Envelope)
  | resume (c : Caller)
  | beginClose (c : Caller)
  | resumeClose (c : Caller)
  | drop
  /-- The publishing task moves. -/
  | task
  /-- The sink answers an attempt. -/
  | answer (r : Verdict)
  deriving DecidableEq

/-- Takes an action, if it can be taken. -/
def step (s : State) : Action → Option Moved
  | .send c e => some (send s c e)
  | .resume c => resume s c
  | .beginClose c => some (beginClose s c)
  | .resumeClose c => resumeClose s c
  | .drop => some (drop s)
  | .task => taskMove s
  | .answer r => answer s r

end OfferService.Publisher
