import OfferService.Outage
import OfferService.Publisher.Step
import OfferService.Schedule

/-
  OfferService.Publisher.Session

  A publisher with a clock, with a sink that may fail on purpose, and with callers of its own: the
  holder of the session, who makes one call after another, and tasks that it starts.
-/
namespace OfferService.Publisher

/-! ## The world of a publisher -/

/-- Where messages go. -/
inductive Sink where
  /-- Into the log. -/
  | log
  /-- To somebody who refuses some attempts. -/
  | broker (outage : Outage)
  deriving DecidableEq, Repr

/-- How a sink answers an attempt. -/
def Sink.answer (s : Sink) (attempt : Nat) : Verdict :=
  match s with
  | .log => .ok ()
  | .broker o =>
    if o.fails attempt then .error (.sink ("attempt " ++ toString attempt ++ " refused"))
    else .ok ()

/-- How long a sink takes. -/
def Sink.delay : Sink → Nat
  | .log => 0
  | .broker o => o.delay

/-- What a sink logs about a message it takes. -/
def Sink.entries (s : Sink) (e : Envelope) : List Log.Entry :=
  match s with
  | .log =>
    [⟨.info, .sink, "Message published to " ++ e.topic ++ " (key " ++ e.key ++ "): " ++ e.payload⟩]
  | .broker _ => []

/-- An attempt that has ended. -/
structure AttemptRecord where
  number : Nat
  envelope : Envelope
  succeeded : Bool
  /-- The moment it ended. -/
  moment : Nat
  deriving DecidableEq, Repr

/-- The tasks besides the holder of the session. -/
inductive Task where
  | publishing
  | caller (c : Caller)
  deriving DecidableEq, Repr

/-- What a started task does. -/
inductive Errand where
  | send (e : Envelope)
  | close
  deriving DecidableEq, Repr

/-- The result of a call. -/
inductive Result where
  | verdict (v : Verdict)
  | closed

/-- A publisher, its sink, its tasks, and what has happened. -/
structure World where
  publisher : State
  sink : Sink
  /-- Attempts so far. -/
  attempts : Nat := 0
  /-- The moment at which the attempt or the pause under way ends. -/
  wakes : Nat := 0
  crew : Crew Errand Result := {}
  log : List Log.Entry := []
  records : List AttemptRecord := []

namespace World

/-- Takes note of an event. -/
def note (now : Nat) (w : World) (e : Event) : World :=
  let w := { w with log := w.log ++ e.log }
  match e with
  | .attemptStarted e =>
    { w with
      attempts := w.attempts + 1
      wakes := now + w.sink.delay
      log := w.log ++ w.sink.entries e }
  | .attemptEnded e r =>
    match w.sink with
    | .log => w
    | .broker _ =>
      { w with records := w.records ++ [⟨w.attempts, e, r.toBool, now⟩] }
  | .returned c v => { w with crew := w.crew.finish c (.verdict v) }
  | .closeReturned c => { w with crew := w.crew.finish c .closed }
  | _ => w

/-- The world after an action of the publisher. -/
def after (now : Nat) (w : World) (m : Moved) : World :=
  m.2.foldl (note now) { w with publisher := m.1 }

/-- Lets go of the publisher once its holder has and no task holds it. -/
def settleDrop (now : Nat) (w : World) : World :=
  if w.crew.isDroppable then
    ({ w with crew := { w.crew with dropped := true } }).after now (drop w.publisher)
  else w

/-- The world after an action of the publisher, if that can be taken. -/
def act? (now : Nat) (w : World) (a : Action) : Option World :=
  (step w.publisher a).map fun m => (w.after now m).settleDrop now

/-- A caller who is under way moves on. -/
def advance (now : Nat) (w : World) (c : Caller) : Option World :=
  (w.act? now (.resume c)).orElse fun _ => w.act? now (.resumeClose c)

/-- One move of the publishing task. -/
def moveTask (now : Nat) (w : World) : Option World :=
  match w.publisher.work with
  | .attempting .. =>
    if w.wakes ≤ now then
      (w.act? now (.answer (w.sink.answer w.attempts))).map fun w =>
        match w.publisher.work with
        | .pausing _ failures _ => { w with wakes := now + pause failures }
        | _ => w
    else none
  | .pausing .. => if w.wakes ≤ now then w.act? now .task else none
  | _ => w.act? now .task

/-- One move of a task. -/
def move (now : Nat) (t : Task) (w : World) : Option World :=
  match t with
  | .publishing => w.moveTask now
  | .caller c =>
    match w.crew.starting.lookup c with
    | some errand =>
      let w := { w with crew := w.crew.begin c }
      match errand with
      | .send e => w.act? now (.send c e)
      | .close => w.act? now (.beginClose c)
    | none => if w.crew.running.contains c then w.advance now c else none

/-- The tasks there are. -/
def tasks (w : World) : List Task :=
  .publishing :: (w.crew.running ++ w.crew.starting.map (·.1)).map .caller

/-- The moment a task waits for. -/
def alarm (w : World) : Task → Option Nat
  | .publishing =>
    match w.publisher.work with
    | .idle _ => none
    | _ => some w.wakes
  | .caller _ => none

end World

/-- The tasks around a publisher. -/
def system : System World Task where
  tasks := World.tasks
  move := World.move
  alarm := World.alarm

/-- A session with a publisher. -/
abbrev Session := Run World Task

namespace Session

/-- A session with a new publisher. -/
def new (topic : String) (capacity : Nat) (sink : Sink) : Session :=
  { state := { publisher := Publisher.new topic capacity, sink } }

/-- Does something to the world without letting the tasks move. -/
def change (s : Session) (f : World → World) : Session := s.update system f

/-- Takes an action of the holder. -/
def act (s : Session) (a : Action) : Session := change s fun w => (w.act? s.now a).getD w

/-- A caller that nobody was before. -/
def freshCaller (s : Session) : Caller × Session :=
  (s.state.crew.next, change s fun w => { w with crew := w.crew.named })

/-! ## Calls of the holder -/

/-- Waits, as the holder, until a call has returned. The holder moves only when no task can. -/
def finish (s : Session) (c : Caller) : Session :=
  go Run.moveLimit s
where
  go : Nat → Session → Session
    | 0, s => s
    | fuel + 1, s =>
      if (s.state.crew.result? c).isSome then s
      else
        let s := s.settleUntil system fun w => (w.advance s.now c).isSome
        match s.state.advance s.now c with
        | some w => go fuel (change s fun _ => w)
        | none => s

/-- Sends an event and waits for the verdict. -/
def send (s : Session) (e : OfferService.Event) : Verdict × Session :=
  let (c, s) := freshCaller s
  let s := finish (act s (.send c (e.seal s.state.publisher.topic))) c
  let v := match s.state.crew.result? c with
    | some (.verdict v) => v
    | _ => .error .closed
  (v, s.settle system)

/-- Closes the publisher and waits for that. -/
def close (s : Session) : Session :=
  let (c, s) := freshCaller s
  (finish (act s (.beginClose c)) c).settle system

/-! ## Tasks of the holder -/

/-- Starts a task. -/
def spawn (s : Session) (e : Errand) : Session :=
  (change s fun w => { w with crew := w.crew.spawn e }).settle system

/-- Starts a task that sends an event. -/
def spawnSend (s : Session) (e : OfferService.Event) : Session :=
  spawn s (.send (e.seal s.state.publisher.topic))

/-- Which of the tasks have finished. -/
def finished (s : Session) : List Bool := s.state.crew.finished

/-- Waits for all tasks; returns their results in the order in which they were started. -/
def join (s : Session) : List Result × Session :=
  let s := s.settleUntil system fun w => w.crew.isDone
  (s.state.crew.joined, change s fun w => { w with crew := { w.crew with unjoined := [] } })

/-! ## The rest -/

/-- Lets go of the publisher. -/
def release (s : Session) : Session :=
  (change s fun w => ({ w with crew := { w.crew with released := true } }).settleDrop s.now).settle
    system

/-- Lets time pass. -/
def sleep (s : Session) (span : Nat) : Session := s.sleepUntil system (s.now + span)

/-- Moves the clock on at once. -/
def skip (s : Session) (span : Nat) : Session := s.jump system span

/-- What was logged, and which attempts have ended, since the last time. -/
def takeNotes (s : Session) : (List Log.Entry × List AttemptRecord) × Session :=
  ((s.state.log, s.state.records),
    { s with state := { s.state with log := [], records := [] } })

end Session

end OfferService.Publisher
