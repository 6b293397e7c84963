import OfferService.Schedule
import OfferService.Ticker.Basic

/-
  OfferService.Ticker.Session

  A ticker together with a clock and with the streams that were opened on it.
-/
namespace OfferService.Ticker

/-! ## The world of a ticker -/

/-- A ticker, its streams, and what was logged. -/
structure World where
  ticker : Ticker
  streams : List Stream := []
  log : List Log.Entry := []
  deriving DecidableEq, Repr

/-- The ticker's task is the only one. -/
def system : System World Unit where
  tasks _ := [()]
  move now _ w :=
    (w.ticker.move now).map fun t => { w with ticker := t, log := w.log ++ w.ticker.moveLog }
  alarm w _ := w.ticker.alarm

/-- A session with a ticker. -/
abbrev Session := Run World Unit

/-- A session with a ticker that was not started. -/
def Session.new (t : Ticker) : Session := { state := { ticker := t } }

/-! ## Requests -/

/-- What can be asked in a session. -/
inductive Request where
  | start
  | close
  /-- Lets go of the ticker. -/
  | drop
  /-- Opens a stream. -/
  | listen
  /-- Waits for a stream, so many milliseconds at most. -/
  | await (stream : Nat) (span : Nat)
  | sleep (span : Nat)
  | jump (span : Nat)
  deriving DecidableEq, Repr

/-- The answer to a request. -/
inductive Answer where
  | done
  | refused (e : TickerError)
  | stream (index : Nat)
  | signal (s : Signal)
  | timeout
  deriving DecidableEq, Repr

namespace Session

/-- Changes the ticker, and lets its task move. -/
def change (s : Session) (f : World → World) : Session := (s.update system f).settle system

/-- Starts the ticker. -/
def start (s : Session) : Answer × Session :=
  match s.state.ticker.start with
  | .error e => (.refused e, s)
  | .ok t => (.done, change s fun w => { w with ticker := t, log := w.log ++ t.startLog })

/-- Closes the ticker, and waits for its task. -/
def close (s : Session) : Answer × Session :=
  match s.state.ticker.beginClose with
  | .error e => (.refused e, s)
  | .ok t =>
    let s := (s.update system fun w => { w with ticker := t }).settleUntil system
      fun w => w.ticker.isDown
    (.done, change s fun w =>
      { w with ticker := w.ticker.endClose, log := w.log ++ w.ticker.closeLog })

/-- What a stream has to tell. -/
def signal? (w : World) (index : Nat) : Option Signal :=
  w.streams[index]?.bind w.ticker.next

/-- Waits for a stream until a moment comes. A tick at that very moment is too late. -/
def await (s : Session) (index span : Nat) : Answer × Session :=
  let s := s.settleUntilOr system (fun w => (signal? w index).isSome) (s.now + span)
  match signal? s.state index with
  | some signal =>
    (.signal signal, change s fun w =>
      { w with streams := w.streams.modify index fun stream => stream.after signal })
  | none => (.timeout, s.settle system)

/-- Answers a request. -/
def perform (s : Session) : Request → Answer × Session
  | .start => s.start
  | .close => s.close
  | .drop => (.done, change s fun w => { w with ticker := w.ticker.drop })
  | .listen =>
    (.stream s.state.streams.length,
      change s fun w => { w with streams := w.streams ++ [w.ticker.stream] })
  | .await index span => s.await index span
  | .sleep span => (.done, s.sleepUntil system (s.now + span))
  | .jump span => (.done, s.jump system span)

/-- What each stream shows: the ticks and whether one is pending, or nothing after the end. -/
def display (s : Session) : List (Option (Nat × Bool)) :=
  s.state.streams.map fun stream =>
    if s.state.ticker.isDown then none
    else some (s.state.ticker.count, s.state.ticker.count ≠ stream.seen)

/-- What was logged since the last time. -/
def takeLog (s : Session) : List Log.Entry × Session :=
  (s.state.log, { s with state := { s.state with log := [] } })

end Session

end OfferService.Ticker
