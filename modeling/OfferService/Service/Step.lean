import OfferService.Service.Basic

/-
  OfferService.Service.Step

  The moves of a service. Each action is one uninterrupted move of one party: somebody who sends a
  request, a handler, the saver, the publisher, or storage. Storage may fail whatever it is asked
  for, by a handler or by the saver, for a reason of its own; nothing is stored or changed then.
-/
namespace OfferService.Service

/-- A state, and what happened on the way to it. -/
abbrev Moved := State × List Event

/-! ## Verdicts on their way -/

/-- Tells a handler what has become of the thing it waits for. -/
def resume (s : State) (c : Caller) (next : Api.Job → Option Api.Job) : State :=
  match s.handling? c with
  | some h =>
    if h.isWaiting then
      match next h.job with
      | some job => s.setHandling c { h with job, isWaiting := false }
      | none => s
    else s
  | none => s

/-- Takes note of what happened in the saver. -/
def noteSaver (s : State) (e : Saver.Event) : State :=
  let s := { s with metrics := e.count s.metrics }
  match e with
  | .returned c v =>
    resume s c fun
      | .save _ next => some (next v)
      | _ => none
  | _ => s

/-- Takes note of what happened in the publisher. -/
def notePublisher (s : State) (e : Publisher.Event) : State :=
  match e with
  | .returned c v =>
    resume s c fun
      | .publish _ _ next => some (next v)
      | _ => none
  | _ => s

/-- The service after a move of its saver. -/
def afterSaver (s : State) (m : Saver.Moved) : Moved :=
  (m.2.foldl noteSaver { s with saver := m.1 }, m.2.map .saver)

/-- The service after a move of its publisher. -/
def afterPublisher (s : State) (m : Publisher.Moved) : Moved :=
  (m.2.foldl notePublisher { s with publisher := m.1 }, m.2.map .publisher)

/-! ## Requests -/

/-- A request arrives. -/
def receive (s : State) (c : Caller) (r : Http.Request) : Moved :=
  ({ s with
    metrics := s.metrics.onRequest
    handlings := s.handlings ++ [(c, { request := r, job := Api.jobOf r })] },
    [.received c r])

/-- A query that storage fails if there is a fault. -/
def withFault (fault : Option Storage.Error) (q : Storage.Query α) : Storage.Query α :=
  match fault with
  | some e => throw e
  | none => q

/-- Runs a query for a handler; `log` is what storage says when it has succeeded. -/
def query (s : State) (c : Caller) (h : Handling) (fault : Option Storage.Error)
    (q : Storage.Query α) (log : α → List Log.Entry) (next : Except Storage.Error α → Api.Job) :
    Moved :=
  let (r, store) := (withFault fault q).on s.store
  ({ s with store }.setHandling c { h with job := next r },
    match r with
    | .ok a => [.logged (log a)]
    | .error _ => [])

/-- Storage says nothing. -/
def silent (_ : α) : List Log.Entry := []

/-- A handler does the first thing that is left to do; storage may fail it. -/
def handle (s : State) (c : Caller) (h : Handling) (fault : Option Storage.Error) : Moved :=
  match h.job with
  | .answer r => (s.endHandling c, [.answered c h.request (Api.sent h.request r)])
  | .create o next =>
    query s c h fault (Storage.Store.create o) (Storage.Store.createdLog o) next
  | .createAll os next =>
    query s c h fault (Storage.Store.createAll os) Storage.Store.batchLog next
  | .describe id next => query s c h fault (Storage.Store.describe id) silent next
  | .list w next => query s c h fault (Storage.Store.list w) silent next
  | .update o next => query s c h fault (Storage.Store.update o) silent next
  | .remove id next => query s c h fault (Storage.Store.remove id) silent next
  | .save o _ =>
    afterSaver (s.setHandling c { h with isWaiting := true }) (Saver.save s.saver c o)
  | .publish kind id _ =>
    let event : OfferService.Event := { kind, id, moment := s.clock }
    afterPublisher (s.setHandling c { h with isWaiting := true })
      (Publisher.send s.publisher c (event.seal s.publisher.topic))
  | .count change next =>
    ({ s with metrics := change s.metrics }.setHandling c { h with job := next }, [])
  | .log es next => (s.setHandling c { h with job := next }, [.logged es])

/-! ## Flushes -/

/-- Storage answers the batch that the saver gave it. -/
def storeBatch (s : State) (fault : Option Storage.Error) : Option Moved :=
  match s.saver.loop with
  | .flushing _ f _ =>
    let (r, store) := (withFault fault (Storage.Store.createAll f.current)).on s.store
    let said : List Event := match r with
      | .ok n => [.logged (Storage.Store.batchLog n)]
      | .error _ => []
    (Saver.answer s.saver (r.map fun _ => ())).map fun m =>
      let (s, events) := afterSaver { s with store } m
      (s, said ++ events)
  | _ => none

/-! ## All actions -/

/-- Is this a move that the saver makes without a handler or storage? -/
def isOwnOfSaver : Saver.Action → Bool
  | .save .. => false
  | .answer _ => false
  | _ => true

/-- Is this a move that the publisher makes without a handler? -/
def isOwnOfPublisher : Publisher.Action → Bool
  | .send .. => false
  | _ => true

/-- What can be done in a service. -/
inductive Action where
  /-- A request arrives from a caller that nobody else is. -/
  | receive (c : Caller) (r : Http.Request)
  /-- A handler goes on; storage may fail what it asks for. -/
  | handle (c : Caller) (fault : Option Storage.Error)
  | saver (a : Saver.Action)
  | publisher (a : Publisher.Action)
  /-- Storage answers the saver's batch, or fails it. -/
  | storeBatch (fault : Option Storage.Error)
  deriving DecidableEq

/-- Takes an action, if it can be taken. -/
def step (s : State) : Action → Option Moved
  | .receive c r => if (s.handling? c).isSome then none else some (receive s c r)
  | .handle c fault =>
    match s.handling? c with
    | some h => if h.isWaiting then none else some (handle s c h fault)
    | none => none
  | .saver a =>
    if isOwnOfSaver a then (Saver.step s.saver a).map (afterSaver s) else none
  | .publisher a =>
    if isOwnOfPublisher a then (Publisher.step s.publisher a).map (afterPublisher s) else none
  | .storeBatch fault => storeBatch s fault

end OfferService.Service
