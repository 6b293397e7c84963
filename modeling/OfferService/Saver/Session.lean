import OfferService.Saver.Step
import OfferService.Schedule
import OfferService.Storage.Outage

/-
  OfferService.Saver.Session

  A saver with a clock, with storage that may fail on purpose, and with callers of its own: the
  holder of the session, who makes one call after another, and tasks that it starts.
-/
namespace OfferService.Saver

/-! ## The world of a saver -/

/-- The tasks besides the holder of the session. -/
inductive Task where
  | ticker
  | loop
  | caller (c : Caller)
  deriving DecidableEq, Repr

/-- What a started task does. -/
inductive Errand where
  | save (o : Offer)
  | close
  deriving DecidableEq, Repr

/-- The result of a call. -/
inductive Result where
  | verdict (v : Verdict)
  | closed

/-- A saver, its storage, its tasks, and what has happened. -/
structure World where
  saver : State
  outage : Outage := {}
  /-- Calls to storage so far. -/
  calls : Nat := 0
  /-- The moment at which the call under way ends. -/
  callEnds : Nat := 0
  crew : Crew Errand Result := {}
  metrics : Metrics := {}
  log : List Log.Entry := []
  records : List Storage.CallRecord := []

namespace World

/-! ## Events -/

/-- Takes note of an event. -/
def note (now : Nat) (w : World) (e : Event) : World :=
  let w := { w with metrics := e.count w.metrics, log := w.log ++ e.log }
  match e with
  | .callStarted _ => { w with calls := w.calls + 1, callEnds := now + w.outage.delay }
  | .callEnded batch r =>
    { w with
      records := w.records ++ [⟨w.calls, batch.map (·.userId), r.toBool, now⟩] }
  | .returned c v => { w with crew := w.crew.finish c (.verdict v) }
  | .closeReturned c => { w with crew := w.crew.finish c .closed }
  | _ => w

/-- The world after an action of the saver. -/
def after (now : Nat) (w : World) (m : Moved) : World :=
  m.2.foldl (note now) { w with saver := m.1 }

/-- Lets go of the saver once its holder has and no task holds it. -/
def settleDrop (now : Nat) (w : World) : World :=
  if w.crew.isDroppable then
    ({ w with crew := { w.crew with dropped := true } }).after now (drop w.saver)
  else w

/-- The world after an action of the saver, if that can be taken. -/
def act? (now : Nat) (w : World) (a : Action) : Option World :=
  (step w.saver a).map fun m => (w.after now m).settleDrop now

/-! ## Tasks -/

/-- A caller who is under way moves on. -/
def advance (now : Nat) (w : World) (c : Caller) : Option World :=
  (w.act? now (.resume c)).orElse fun _ =>
    (w.act? now (.collect c)).orElse fun _ => w.act? now (.resumeClose c)

/-- One move of a task. -/
def move (now : Nat) (t : Task) (w : World) : Option World :=
  match t with
  | .ticker => w.act? now (.ticker now)
  | .loop =>
    match w.saver.loop with
    | .flushing .. =>
      if w.callEnds ≤ now then w.act? now (.answer (w.outage.storageAnswer w.calls)) else none
    | _ => w.act? now .loop
  | .caller c =>
    match w.crew.starting.lookup c with
    | some errand =>
      let w := { w with crew := w.crew.begin c }
      match errand with
      | .save o => w.act? now (.save c o)
      | .close => w.act? now (.beginClose c)
    | none => if w.crew.running.contains c then w.advance now c else none

/-- The tasks there are: those with a place in the mailbox come before those with a verdict. -/
def tasks (w : World) : List Task :=
  let placed := w.saver.mailbox.granted.filter w.crew.running.contains
  let others := (w.crew.running ++ w.crew.starting.map (·.1)).filter fun c => !placed.contains c
  .ticker :: .loop :: (placed ++ others).map .caller

/-- The moment a task waits for. -/
def alarm (w : World) : Task → Option Nat
  | .ticker => w.saver.ticker.alarm
  | .loop =>
    match w.saver.loop with
    | .flushing .. => some w.callEnds
    | _ => none
  | .caller _ => none

end World

/-- The tasks around a saver. -/
def system : System World Task where
  tasks := World.tasks
  move := World.move
  alarm := World.alarm

/-- A session with a saver. -/
abbrev Session := Run World Task

namespace Session

/-! ## Beginning -/

/-- A session with a saver that was not initialized. -/
def new (saver : State) (outage : Outage) : Session := { state := { saver, outage } }

/-- Does something to the world without letting the tasks move. -/
def change (s : Session) (f : World → World) : Session := s.update system f

/-- Takes an action of the holder. -/
def act (s : Session) (a : Action) : Session :=
  change s fun w => (w.act? s.now a).getD w

/-- A caller that nobody was before. -/
def freshCaller (s : Session) : Caller × Session :=
  (s.state.crew.next, change s fun w => { w with crew := w.crew.named })

/-! ## Calls of the holder -/

/-- Waits, as the holder, until a call has returned. The holder moves only when no task can. -/
def finish (s : Session) (c : Caller) : Session :=
  go Run.moveLimit s
where
  go : Nat → Session → Session
    | 0, s => s
    | fuel + 1, s =>
      if (s.state.crew.result? c).isSome then s
      else
        let s := s.settleUntil system fun w => (w.advance s.now c).isSome
        match s.state.advance s.now c with
        | some w => go fuel (change s fun _ => w)
        | none => s

/-- Initializes the saver. -/
def init (s : Session) : Verdict × Session :=
  match (Saver.init s.state.saver).2.findSome? fun
      | .initialized v => some v
      | _ => none with
  | some v => (v, (act s .init).settle system)
  | none => (.ok (), s)

/-- Saves an offer and waits for the verdict. -/
def save1 (s : Session) (o : Offer) : Verdict × Session :=
  let (c, s) := freshCaller s
  let s := finish (act s (.save c o)) c
  match s.state.crew.result? c with
  | some (.verdict v) => (v, s)
  | _ => (.error .closed, s)

/-- Saves offers, each when the one before it is answered. -/
def save (s : Session) (os : List Offer) : List Verdict × Session :=
  let (vs, s) := os.foldl
    (fun (acc : List Verdict × Session) o =>
      let (v, s) := save1 acc.2 o
      (v :: acc.1, s))
    ([], s)
  (vs.reverse, s.settle system)

/-- Begins to save offers and gives up at once, each before any task can move; tells which were
    refused at once. -/
def abandon (s : Session) (os : List Offer) : List (Option SaverError) × Session :=
  let (rs, s) := os.foldl
    (fun (acc : List (Option SaverError) × Session) o =>
      let (c, s) := freshCaller acc.2
      let s := act s (.save c o)
      match s.state.crew.result? c with
      | some (.verdict (.error e)) => (some e :: acc.1, s)
      | _ => (none :: acc.1, act s (.abandon c)))
    ([], s)
  (rs.reverse, s.settle system)

/-- Closes the saver and waits for that. -/
def close (s : Session) : Session :=
  let (c, s) := freshCaller s
  (finish (act s (.beginClose c)) c).settle system

/-! ## Tasks of the holder -/

/-- Starts tasks, one for each errand. -/
def spawn (s : Session) (es : List Errand) : Session :=
  (es.foldl (fun s e => change s fun w => { w with crew := w.crew.spawn e }) s).settle system

/-- Which of the tasks have finished. -/
def finished (s : Session) : List Bool := s.state.crew.finished

/-- Waits for all tasks; returns their results in the order in which they were started. -/
def join (s : Session) : List Result × Session :=
  let s := s.settleUntil system fun w => w.crew.isDone
  (s.state.crew.joined, change s fun w => { w with crew := { w.crew with unjoined := [] } })

/-! ## The rest -/

/-- Lets go of the saver. -/
def release (s : Session) : Session :=
  (change s fun w => ({ w with crew := { w.crew with released := true } }).settleDrop s.now).settle
    system

/-- Changes how storage fails. -/
def setOutage (s : Session) (f : Outage → Outage) : Session :=
  change s fun w => { w with outage := f w.outage }

/-- Lets time pass. -/
def sleep (s : Session) (span : Nat) : Session := s.sleepUntil system (s.now + span)

/-- Moves the clock on at once. -/
def skip (s : Session) (span : Nat) : Session := s.jump system span

/-- What was logged, and which calls to storage have ended, since the last time. -/
def takeNotes (s : Session) : (List Log.Entry × List Storage.CallRecord) × Session :=
  ((s.state.log, s.state.records),
    { s with state := { s.state with log := [], records := [] } })

end Session

end OfferService.Saver
