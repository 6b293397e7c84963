import OfferService.Settings.Basic
import OfferService.Text.Number

/-
  OfferService.Settings.Setting

  The names of the settings, on the command line and in the environment, and how the text of a value
  is read.
-/
namespace OfferService

/-- A setting, by name. -/
inductive Setting where
  | logLevel
  | logFormat
  | apiHost
  | apiPort
  | statusHost
  | statusPort
  | databasePath
  | capacity
  | groups
  | interval
  | queue
  | topic
  | projectName
  | environment
  | debug
  deriving DecidableEq, Repr

namespace Setting

/-- All settings, in the order in which they are looked up. -/
def all : List Setting :=
  [.logLevel, .logFormat, .apiHost, .apiPort, .statusHost, .statusPort, .databasePath, .capacity,
    .groups, .interval, .queue, .topic, .projectName, .environment, .debug]

/-! ## Names -/

/-- The name on the command line. -/
def flag : Setting → String
  | .logLevel => "log-level"
  | .logFormat => "log-format"
  | .apiHost => "api-host"
  | .apiPort => "api-port"
  | .statusHost => "status-host"
  | .statusPort => "status-port"
  | .databasePath => "db-path"
  | .capacity => "saver-capacity"
  | .groups => "flush-group-count"
  | .interval => "flush-interval-ms"
  | .queue => "producer-queue-capacity"
  | .topic => "events-topic"
  | .projectName => "project-name"
  | .environment => "environment"
  | .debug => "debug"

/-- The name in the environment. -/
def envName : Setting → String
  | .logLevel => "LOG_LEVEL"
  | .logFormat => "LOG_FORMAT"
  | .apiHost => "API_HOST"
  | .apiPort => "API_PORT"
  | .statusHost => "STATUS_HOST"
  | .statusPort => "STATUS_PORT"
  | .databasePath => "DATABASE_PATH"
  | .capacity => "SAVER_CAPACITY"
  | .groups => "FLUSH_GROUP_COUNT"
  | .interval => "FLUSH_INTERVAL_MS"
  | .queue => "PRODUCER_QUEUE_CAPACITY"
  | .topic => "EVENTS_TOPIC"
  | .projectName => "PROJECT_NAME"
  | .environment => "PROJECT_ENVIRONMENT"
  | .debug => "PROJECT_DEBUG"

/-- Is the setting a switch, which takes no value on the command line? -/
def isSwitch (s : Setting) : Bool := s = .debug

/-- The setting as it is shown: with the place of its value, in capitals, unless it is a switch. -/
def shown (s : Setting) : String :=
  let upper (c : Char) : Char := if c = '-' then '_' else c.toUpper
  "--" ++ s.flag ++
    (if s.isSwitch then "" else " <" ++ String.ofList (s.flag.toList.map upper) ++ ">")

/-- The setting of a name on the command line. -/
def ofFlag (name : String) : Option Setting := all.find? fun s => s.flag == name

/-! ## Values -/

/-- What is wrong with a value. -/
inductive ValueFault where
  /-- It is none of the possible values. -/
  | notPossible
  | notNumber (reason : String)
  deriving DecidableEq, Repr

/-- Reads a number of 64 bits. -/
def number (value : String) : Except ValueFault Nat :=
  (Text.readNatural Text.maxNatural64 value.toList).mapError fun e => .notNumber e.message

/-- Reads the number behind a host; a number that is none is told apart from what is no number. -/
def portNumber (value : String) : Except ValueFault Nat :=
  match Text.readInteger Text.maxInteger64 value.toList with
  | .error e => .error (.notNumber e.message)
  | .ok n =>
    if 0 ≤ n ∧ n ≤ 65535 then .ok n.toNat
    else .error (.notNumber (toString n ++ " is not in 0..=65535"))

/-- Reads one of several values by its name. -/
def oneOf (all : List α) (name : α → String) (value : String) : Except ValueFault α :=
  match all.find? fun a => name a == value with
  | some a => .ok a
  | none => .error .notPossible

/-- Gives a setting a value. -/
def set (t : Settings) (value : String) : Setting → Except ValueFault Settings
  | .logLevel =>
    (oneOf Log.Level.all Log.Level.name value).map fun v => { t with logLevel := v }
  | .logFormat =>
    (oneOf Log.Format.all Log.Format.name value).map fun v => { t with logFormat := v }
  | .apiHost => .ok { t with apiHost := value }
  | .apiPort => (portNumber value).map fun v => { t with apiPort := v }
  | .statusHost => .ok { t with statusHost := value }
  | .statusPort => (portNumber value).map fun v => { t with statusPort := v }
  | .databasePath =>
    if value = "" then .error .notPossible else .ok { t with databasePath := value }
  | .capacity => (number value).map fun v => { t with capacity := v }
  | .groups => (number value).map fun v => { t with groups := v }
  | .interval => (number value).map fun v => { t with interval := v }
  | .queue => (number value).map fun v => { t with queue := v }
  | .topic => .ok { t with topic := value }
  | .projectName => .ok { t with release := { t.release with name := value } }
  | .environment => .ok { t with release := { t.release with environment := value } }
  | .debug =>
    (oneOf [true, false] toString value).map fun v =>
      { t with release := { t.release with isDebug := v } }

end Setting

end OfferService
