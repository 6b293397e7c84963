import OfferService.Command
import OfferService.Consumer.Lines
import OfferService.Log
import OfferService.Storage.Store

/-
  OfferService.Consumer.Basic

  A consumer takes commands from a source, one after another, and applies them to the store. A
  command that cannot be read or applied is passed over; a source that fails ends the run.
-/
namespace OfferService.Consumer

/-! ## One message -/

/-- Why a message is not applied, or a run fails. -/
inductive Error where
  /-- The source failed. -/
  | read (reason : String)
  /-- The message is no command. -/
  | decode (fault : Json.Fault)
  | storage (cause : Storage.Error)
  deriving DecidableEq, Repr

/-- What is wrong with a message that is no command. In which way a broken text is broken, and where
    in the text a fault stands, is not told here. -/
def wording : Json.Fault → String
  | .broken _ => Log.untold
  | .unfit _ cause => cause.message ++ " at " ++ Log.untold

/-- The error in words. -/
def Error.message : Error → String
  | .read reason => "Failed to read message: " ++ reason
  | .decode fault => "Failed to decode message: " ++ wording fault
  | .storage cause => cause.message

/-- What a consumer says about its work. -/
def remark (text : String) : Log.Entry := ⟨.debug, .consumer, text⟩

/-- Does what a command says; returns what is logged about it. -/
def execute : Command → Storage.Query (List Log.Entry)
  | .create o => do
    let id ← Storage.Store.create o
    return Storage.Store.createdLog o id ++
      [remark ("Consumed create, offer " ++ toString id.toNat ++ " stored")]
  | .multiCreate os => do
    let count ← Storage.Store.createAll os
    return Storage.Store.batchLog count ++
      [remark ("Consumed multi_create, " ++ toString count ++ " offers stored")]
  | .update o => do
    Storage.Store.update o
    return []
  | .delete id => do
    Storage.Store.remove id
    return []

/-- What has become of a message. -/
structure Applied where
  /-- The command that was carried out, or what went wrong. -/
  result : Except Error Command
  store : Storage.Store
  /-- What was logged while it was carried out. -/
  log : List Log.Entry := []

/-- Reads a message and does what it says. -/
def apply (e : Envelope) (s : Storage.Store) : Applied :=
  match Command.ofText (Text.Utf8.encode e.payload) with
  | .error fault => { result := .error (.decode fault), store := s }
  | .ok c =>
    match (execute c).on s with
    | (.ok log, s) => { result := .ok c, store := s, log }
    | (.error cause, s) => { result := .error (.storage cause), store := s }

/-! ## A run -/

/-- What a source gives. -/
inductive Delivery where
  | message (e : Envelope)
  | failure (reason : String)
  deriving DecidableEq, Repr

/-- How many messages were applied, and how many were not. -/
structure Report where
  applied : Nat := 0
  failed : Nat := 0
  deriving DecidableEq, Repr

/-- What is logged about a message. -/
def entry (e : Envelope) : Except Error Command → Log.Entry
  | .ok c => ⟨.info, .consumer, "Applied " ++ c.name ++ " command from " ++ e.topic⟩
  | .error cause =>
    ⟨.error, .consumer, "Skipping message from " ++ e.topic ++ ": " ++ cause.message ++ " (" ++
      e.payload ++ ")"⟩

/-- What is logged at the end of a run. -/
def Report.entry (r : Report) : Log.Entry :=
  ⟨.info, .consumer, "Consumer stopped: " ++ toString r.applied ++ " applied, " ++
    toString r.failed ++ " failed"⟩

/-- The report after one more message. -/
def Report.add (r : Report) : Except Error Command → Report
  | .ok _ => { r with applied := r.applied + 1 }
  | .error _ => { r with failed := r.failed + 1 }

/-- A run under way: the store, the report, and what was logged. -/
structure State where
  store : Storage.Store
  report : Report := {}
  log : List Log.Entry := []

/-- Takes one message. -/
def State.take (s : State) (e : Envelope) : State :=
  let a := apply e s.store
  { store := a.store, report := s.report.add a.result,
    log := s.log ++ a.log ++ [entry e a.result] }

/-- The end of a run. -/
def State.stop (s : State) : Except Error Report × State :=
  (.ok s.report, { s with log := s.log ++ [s.report.entry] })

/-- Takes what the source gives until it ends or fails, or until the run is told to stop: after
    `quit` deliveries, if at all. -/
def run (s : State) : (quit : Option Nat) → List Delivery → Except Error Report × State
  | some 0, _ => s.stop
  | _, [] => s.stop
  | _, .failure reason :: _ => (.error (.read reason), s)
  | quit, .message e :: rest => run (s.take e) (quit.map (· - 1)) rest

/-! ## Sources -/

/-- What a source gives that is read line by line. -/
def ofLines (topic : String) (bytes : List UInt8) : List Delivery :=
  go bytes.length { topic, rest := bytes }
where
  go : Nat → Lines → List Delivery
    | 0, _ => []
    | fuel + 1, l =>
      match l.next with
      | .error e => [.failure e.message]
      | .ok (none, _) => []
      | .ok (some e, l) => .message e :: go fuel l

/-- A source of prepared messages that fails when it is asked for the one of number `failAt`. -/
def scripted (topic : String) (payloads : List String) (failAt : Option Nat) (reason : String) :
    List Delivery :=
  let messages := payloads.map fun p => Delivery.message { topic, key := topic, payload := p }
  match failAt with
  | some n =>
    if 0 < n ∧ n ≤ messages.length + 1 then messages.take (n - 1) ++ [.failure reason] else messages
  | none => messages

end OfferService.Consumer
