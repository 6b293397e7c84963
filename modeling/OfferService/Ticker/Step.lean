import OfferService.Ticker.Basic

/-
  OfferService.Ticker.Step

  The moves of a ticker. Each action is one uninterrupted move of one party: whoever holds the
  ticker, its task, whoever follows a stream, or the clock. An action that cannot be taken in a
  state gives nothing; who acts when is left open.

  The clock goes on in two ways. It waits as long as the task has something to do, and then goes on
  no further than to the moment the task waits for; or it jumps, whatever the task has to do.
-/
namespace OfferService.Ticker

/-- Whoever holds the ticker. -/
inductive Holder where
  | free
  /-- In a call to close the ticker, which waits for the task. -/
  | closing
  /-- Nobody holds the ticker any more. -/
  | gone
  deriving DecidableEq, Repr

/-- A ticker, the clock, and the streams that were opened. -/
structure Scene where
  ticker : Ticker
  now : Nat := 0
  streams : List Stream := []
  holder : Holder := .free
  deriving DecidableEq, Repr

/-- What happens to a ticker. -/
inductive Event where
  | started (moment : Nat)
  /-- A call is refused. -/
  | refused (e : TickerError)
  | closeBegan
  /-- A call to close returns. -/
  | closed
  | dropped
  /-- A stream is opened, after so many ticks. -/
  | opened (index : Nat) (count : Nat)
  | told (index : Nat) (signal : Signal)
  | ticked (moment : Nat)
  /-- The clock went on, with everything at its own moment. -/
  | waited (span : Nat)
  /-- The clock went on at once. -/
  | jumped (span : Nat)
  deriving DecidableEq, Repr

/-- A state, and what happened on the way to it. -/
abbrev Moved := Scene × List Event

/-- What can be done. -/
inductive Action where
  | start
  | beginClose
  | endClose
  | drop
  /-- Opens a stream. -/
  | listen
  /-- A stream is told what there is to tell. -/
  | tell (index : Nat)
  /-- The task moves. -/
  | task
  | wait (span : Nat)
  | jump (span : Nat)
  deriving DecidableEq, Repr

/-- The holder makes a call, which may be refused, unless it is in one or has let go. -/
def call (s : Scene) (r : Except TickerError Moved) : Option Moved :=
  if s.holder = .free then
    match r with
    | .ok m => some m
    | .error e => some (s, [.refused e])
  else none

/-- Has the task nothing to do before a moment? -/
def idleUntil (s : Scene) (moment : Nat) : Bool :=
  (s.ticker.move s.now).isNone && s.ticker.alarm.all (moment ≤ ·)

/-- Takes an action, if it can be taken. -/
def step (s : Scene) : Action → Option Moved
  | .start => call s (s.ticker.start.map fun t => ({ s with ticker := t }, [.started s.now]))
  | .beginClose =>
    call s (s.ticker.beginClose.map fun t =>
      ({ s with ticker := t, holder := .closing }, [.closeBegan]))
  | .endClose =>
    if s.holder = .closing ∧ s.ticker.isDown then
      some ({ s with ticker := s.ticker.endClose, holder := .free }, [.closed])
    else none
  | .drop =>
    if s.holder = .free then
      some ({ s with ticker := s.ticker.drop, holder := .gone }, [.dropped])
    else none
  | .listen =>
    if s.holder = .free then
      some ({ s with streams := s.streams ++ [s.ticker.stream] },
        [.opened s.streams.length s.ticker.count])
    else none
  | .tell i =>
    (s.streams[i]?.bind s.ticker.next).map fun signal =>
      ({ s with streams := s.streams.modify i fun stream => stream.after signal },
        [.told i signal])
  | .task =>
    (s.ticker.move s.now).map fun t =>
      ({ s with ticker := t }, if s.ticker.count < t.count then [.ticked s.now] else [])
  | .wait span =>
    if idleUntil s (s.now + span) then some ({ s with now := s.now + span }, [.waited span])
    else none
  | .jump span => some ({ s with now := s.now + span }, [.jumped span])

end OfferService.Ticker
