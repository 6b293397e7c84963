import OfferService.Log
import OfferService.Text.Number

/-
  OfferService.Ticker.Basic

  A ticker fires at a steady period until it is closed. One task of its own does the firing; any
  number of streams follow it, each of which knows the last tick it has seen. Of the ticks that a
  stream misses only the latest is kept for it.
-/
namespace OfferService

/-! ## Periods -/

/-- The time between two ticks. -/
inductive Period where
  | millis (n : Nat)
  /-- The longest span there is; no clock can reach the end of it. -/
  | longest
  deriving DecidableEq, Repr

namespace Period

/-- The period in whole milliseconds, as far as 64 bits can tell. -/
def toMillis : Period → Nat
  | .millis n => n
  | .longest => Text.maxNatural64

/-- A decimal fraction without the zeros at its end, after a point unless nothing is left. -/
def fractionText (digits : List Char) : String :=
  let kept := (digits.reverse.dropWhile (· == '0')).reverse
  if kept.isEmpty then "" else String.ofList ('.' :: kept)

/-- The period in words: in seconds from one second on, in milliseconds below. -/
def render : Period → String
  | .millis n =>
    if 1000 ≤ n then toString (n / 1000) ++ fractionText (Text.padded 3 (n % 1000)).toList ++ "s"
    else if n = 0 then "0ns"
    else toString n ++ "ms"
  | .longest => toString Text.maxNatural64 ++ ".999999999s"

end Period

/-! ## Tickers -/

/-- Why a ticker refuses a request. -/
inductive TickerError where
  | invalidPeriod
  | alreadyStarted
  | notRunning
  deriving DecidableEq, Repr

/-- The error in words. -/
def TickerError.message : TickerError → String
  | .invalidPeriod => "Notifier duration must be greater than zero"
  | .alreadyStarted => "Notifier is already initialized"
  | .notRunning => "Notifier is not running"

/-- What was asked of a ticker so far. -/
inductive TickerPhase where
  | created
  | running
  | closed
  deriving DecidableEq, Repr

/-- The task that fires the ticks. -/
inductive TickerTask where
  /-- Not there yet. -/
  | absent
  /-- Started, and about to look at the clock. -/
  | starting
  /-- Waiting for a moment. -/
  | sleeping (deadline : Nat)
  | ended
  /-- Failed, because the clock has no moment for the first tick. -/
  | failed
  deriving DecidableEq, Repr

/-- A ticker. -/
structure Ticker where
  period : Period
  phase : TickerPhase := .created
  task : TickerTask := .absent
  /-- The task was asked to end. -/
  stopping : Bool := false
  /-- The ticks so far. -/
  count : Nat := 0
  deriving DecidableEq, Repr

namespace Ticker

/-- A new ticker. -/
def new (period : Period) : Except TickerError Ticker :=
  if period = .millis 0 then .error .invalidPeriod else .ok { period }

/-! ## Requests -/

/-- Starts the ticker. -/
def start (t : Ticker) : Except TickerError Ticker :=
  if t.phase = .created then .ok { t with phase := .running, task := .starting }
  else .error .alreadyStarted

/-- What is logged when the ticker starts. -/
def startLog (t : Ticker) : List Log.Entry :=
  [⟨.debug, .notifier, "Notifier started with period " ++ t.period.render⟩]

/-- Begins to close the ticker. -/
def beginClose (t : Ticker) : Except TickerError Ticker :=
  if t.phase = .running then .ok { t with stopping := true } else .error .notRunning

/-- Has the task come to its end? -/
def isDown (t : Ticker) : Bool := t.task = .ended || t.task = .failed

/-- The end of closing, once the task has ended. -/
def endClose (t : Ticker) : Ticker := { t with phase := .closed }

/-- What is logged at the end of closing. -/
def closeLog (t : Ticker) : List Log.Entry :=
  if t.task = .failed then [⟨.error, .notifier, "Notifier background task failed"⟩] else []

/-- Nobody holds the ticker any more. A ticker that was never started ends with it. -/
def drop (t : Ticker) : Ticker :=
  { t with stopping := true, task := if t.task = .absent then .ended else t.task }

/-! ## The task -/

/-- A tick that is later than this is late. -/
def tolerance : Nat := 5

/-- The deadline after one that was met at `now`: a period after the deadline itself, or, if the
    tick was late, a period after the tick. -/
def nextDeadline (deadline now period : Nat) : Nat :=
  if deadline + tolerance < now then now + period else deadline + period

/-- One move of the task, unless it has to wait. -/
def move (now : Nat) (t : Ticker) : Option Ticker :=
  match t.task, t.period with
  | .starting, .longest => some { t with task := .failed }
  | .starting, .millis n => some { t with task := .sleeping (now + n) }
  | .sleeping deadline, _ =>
    if t.stopping then some { t with task := .ended }
    else if deadline ≤ now then
      some { t with
        count := t.count + 1
        task := .sleeping (nextDeadline deadline now t.period.toMillis) }
    else none
  | _, _ => none

/-- What the task logs in a move. -/
def moveLog (t : Ticker) : List Log.Entry :=
  match t.task with
  | .sleeping _ =>
    if t.stopping then [⟨.debug, .notifier, "Notifier background task shutting down"⟩] else []
  | _ => []

/-- The moment the task waits for. -/
def alarm (t : Ticker) : Option Nat :=
  match t.task with
  | .sleeping deadline => some deadline
  | _ => none

/-! ## Streams -/

/-- A stream of ticks: the last one it has seen. -/
structure Stream where
  seen : Nat
  deriving DecidableEq, Repr

/-- Opens a stream; it will see ticks from now on. -/
def stream (t : Ticker) : Stream := ⟨t.count⟩

/-- What a stream has to tell. -/
inductive Signal where
  | tick (count : Nat)
  | ended
  deriving DecidableEq, Repr

/-- What the stream has to tell next; nothing if it has to wait. A tick that was not seen comes
    before the end. -/
def next (t : Ticker) (s : Stream) : Option Signal :=
  if t.count ≠ s.seen then some (.tick t.count)
  else if t.isDown then some .ended
  else none

/-- The stream after it was told. -/
def Stream.after (s : Stream) : Signal → Stream
  | .tick count => ⟨count⟩
  | .ended => s

end Ticker

end OfferService
