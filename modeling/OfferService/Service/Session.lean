import OfferService.Publisher.Session
import OfferService.Saver.Session
import OfferService.Service.Status
import OfferService.Service.Step

/-
  OfferService.Service.Session

  A service with a clock, with storage that may fail whole batches on purpose, and with somebody who
  sends requests and wants to know what comes of them.
-/
namespace OfferService.Service

/-! ## The world of a service -/

/-- The tasks in a service. -/
inductive Task where
  | ticker
  | saverLoop
  | publishing
  | handler (c : Caller)
  | saverCloser (c : Caller)
  | publisherCloser (c : Caller)
  deriving DecidableEq, Repr

/-- A service, its storage, its sink, and what has happened. -/
structure World where
  service : State
  outage : Outage := {}
  /-- Batches given to storage so far. -/
  batches : Nat := 0
  sink : Publisher.Sink := .broker {}
  /-- Attempts to publish so far. -/
  attempts : Nat := 0
  /-- The moment at which the attempt or the pause under way ends. -/
  wakes : Nat := 0
  next : Caller := 0
  saverClosers : List Caller := []
  publisherClosers : List Caller := []
  answers : List (Caller × Http.Response) := []
  published : List Envelope := []
  log : List Log.Entry := []

namespace World

/-! ## Events -/

/-- Takes note of an event. -/
def note (now : Nat) (w : World) (e : Event) : World :=
  let w := { w with log := w.log ++ e.log }
  match e with
  | .answered c _ answer => { w with answers := (c, answer) :: w.answers }
  | .saver (.closeReturned c) => { w with saverClosers := w.saverClosers.erase c }
  | .publisher (.closeReturned c) => { w with publisherClosers := w.publisherClosers.erase c }
  | .publisher (.attemptStarted e) =>
    { w with
      attempts := w.attempts + 1
      wakes := now + w.sink.delay
      log := w.log ++ w.sink.entries e }
  | .publisher (.attemptEnded e (.ok ())) => { w with published := w.published ++ [e] }
  | _ => w

/-- The world after an action, if that can be taken. -/
def act? (now : Nat) (w : World) (a : Action) : Option World :=
  (step w.service a).map fun m => m.2.foldl (note now) { w with service := m.1 }

/-! ## Tasks -/

/-- Gives a batch to storage, which fails it if that is meant to happen. -/
def batch? (now : Nat) (w : World) (a : Option Storage.Error → Action) : Option World :=
  let w := { w with batches := w.batches + 1 }
  match w.outage.storageAnswer w.batches with
  | .ok () => w.act? now (a none)
  | .error e => w.act? now (a (some e))

/-- A handler moves on. -/
def moveHandler (now : Nat) (w : World) (c : Caller) : Option World :=
  match w.service.handling? c with
  | none => none
  | some h =>
    match h.isWaiting, h.job with
    | true, .publish .. => w.act? now (.publisher (.resume c))
    | true, _ => (w.act? now (.saver (.resume c))).orElse fun _ => w.act? now (.saver (.collect c))
    | false, .createAll .. => w.batch? now (.handle c)
    | false, _ => w.act? now (.handle c none)

/-- The saver's event loop moves on. -/
def moveLoop (now : Nat) (w : World) : Option World :=
  match w.service.saver.loop with
  | .flushing .. => w.batch? now .storeBatch
  | _ => w.act? now (.saver .loop)

/-- The publishing task moves on. -/
def movePublishing (now : Nat) (w : World) : Option World :=
  match w.service.publisher.work with
  | .attempting .. =>
    if w.wakes ≤ now then
      (w.act? now (.publisher (.answer (w.sink.answer w.attempts)))).map fun w =>
        match w.service.publisher.work with
        | .pausing _ failures _ => { w with wakes := now + Publisher.pause failures }
        | _ => w
    else none
  | .pausing .. => if w.wakes ≤ now then w.act? now (.publisher .task) else none
  | _ => w.act? now (.publisher .task)

/-- One move of a task. -/
def move (now : Nat) (t : Task) (w : World) : Option World :=
  match t with
  | .ticker => w.act? now (.saver (.ticker now))
  | .saverLoop => w.moveLoop now
  | .publishing => w.movePublishing now
  | .handler c => w.moveHandler now c
  | .saverCloser c => w.act? now (.saver (.resumeClose c))
  | .publisherCloser c => w.act? now (.publisher (.resumeClose c))

/-- The tasks there are. -/
def tasks (w : World) : List Task :=
  [.ticker, .saverLoop, .publishing] ++ w.service.handlings.map (fun p => .handler p.1) ++
    w.saverClosers.map .saverCloser ++ w.publisherClosers.map .publisherCloser

/-- The moment a task waits for. -/
def alarm (w : World) : Task → Option Nat
  | .ticker => w.service.saver.ticker.alarm
  | .publishing =>
    match w.service.publisher.work with
    | .idle _ => none
    | _ => some w.wakes
  | _ => none

end World

/-- The tasks in a service. -/
def system : System World Task where
  tasks := World.tasks
  move := World.move
  alarm := World.alarm

/-- A session with a service. -/
abbrev Session := Run World Task

namespace Session

/-! ## Beginning -/

/-- A session with a service that has a saver of its own, and a publisher of a topic. -/
def new (saver : Saver.State) (topic : String) (queue : Nat) (release : Release)
    (outage : Outage) : Session :=
  { state :=
      { service := { saver, publisher := Publisher.new topic queue, release }, outage } }

/-- Does something to the world without letting the tasks move. -/
def change (s : Session) (f : World → World) : Session := s.update system f

/-- Does something to the service without letting the tasks move. -/
def changeService (s : Session) (f : State → State) : Session :=
  change s fun w => { w with service := f w.service }

/-- Takes an action. -/
def act (s : Session) (a : Action) : Session := change s fun w => (w.act? s.now a).getD w

/-- A caller that nobody was before. -/
def freshCaller (s : Session) : Caller × Session :=
  (s.state.next, change s fun w => { w with next := w.next + 1 })

/-! ## Requests -/

/-- Sends a request and waits for the answer, and for everything that it set off. -/
def request (s : Session) (r : Http.Request) : Option Http.Response × Session :=
  let (c, s) := freshCaller s
  let s := (act s (.receive c r)).settle system
  (s.state.answers.lookup c, change s fun w => { w with answers := [] })

/-- Asks how the service is. -/
def watch (s : Session) (r : Http.Request) : Http.Response := s.state.service.watch r

/-- Runs a query past the interface. -/
def query (s : Session) (q : Storage.Query α) : Except Storage.Error α × Session :=
  let (r, store) := q.on s.state.service.store
  (r, changeService s fun t => { t with store })

/-! ## Starting and stopping -/

/-- Says whether the service is up. -/
def setReady (s : Session) (isReady : Bool) : Session :=
  changeService s fun t => { t with isReady }

/-- Initializes the saver. -/
def initSaver (s : Session) : Saver.Verdict × Session :=
  match (Saver.init s.state.service.saver).2.findSome? fun
      | .initialized v => some v
      | _ => none with
  | some v => (v, (act s (.saver .init)).settle system)
  | none => (.ok (), s)

/-- Closes the saver. -/
def closeSaver (s : Session) : Session :=
  let (c, s) := freshCaller s
  (act (change s fun w => { w with saverClosers := w.saverClosers ++ [c] })
    (.saver (.beginClose c))).settle system

/-- Closes the publisher. -/
def closePublisher (s : Session) : Session :=
  let (c, s) := freshCaller s
  (act (change s fun w => { w with publisherClosers := w.publisherClosers ++ [c] })
    (.publisher (.beginClose c))).settle system

/-- Closes the pool of connections to storage. -/
def closeStore (s : Session) : Session := changeService s fun t => { t with store := t.store.close }

/-- Changes how storage fails. -/
def setOutage (s : Session) (f : Outage → Outage) : Session :=
  change s fun w => { w with outage := f w.outage }

/-- What was logged and published since the last time. -/
def takeNotes (s : Session) : (List Log.Entry × List Envelope) × Session :=
  ((s.state.log, s.state.published),
    { s with state := { s.state with log := [], published := [] } })

end Session

end OfferService.Service
