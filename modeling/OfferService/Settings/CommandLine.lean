import OfferService.Settings.Setting
import OfferService.Text.Cut

/-
  OfferService.Settings.CommandLine

  The command line. A name begins with two hyphens; its value follows as the next argument, or after
  an equals sign. What the command line leaves open is taken from the environment. The first thing
  that is wrong is reported, and a value that follows its name is looked at only when the next
  argument is understood.
-/
namespace OfferService

/-! ## Outcomes -/

/-- What is wrong with a command line. -/
inductive UsageError where
  | unknown (argument : String)
  /-- A name that takes no value has one. -/
  | surplusValue (shown : String) (value : String)
  | missingValue (s : Setting)
  | badValue (s : Setting) (value : String) (fault : Setting.ValueFault)
  | repeated (s : Setting)
  deriving DecidableEq, Repr

/-- The error in words. -/
def UsageError.message : UsageError → String
  | .unknown argument => "unexpected argument '" ++ argument ++ "' found"
  | .surplusValue shown value =>
    "unexpected value '" ++ value ++ "' for '" ++ shown ++ "' found; no more were expected"
  | .missingValue s => "a value is required for '" ++ s.shown ++ "' but none was supplied"
  | .badValue s value fault =>
    let refused := "invalid value '" ++ value ++ "' for '" ++ s.shown ++ "'"
    match fault with
    | .notNumber reason => refused ++ ": " ++ reason
    | .notPossible =>
      if value = "" then "a value is required for '" ++ s.shown ++ "' but none was supplied"
      else refused
  | .repeated s => "the argument '" ++ s.shown ++ "' cannot be used multiple times"

/-- Why a command line does not start a service. -/
inductive Refusal where
  | help
  | version
  | usage (e : UsageError)
  deriving DecidableEq, Repr

namespace CommandLine

/-! ## Reading -/

/-- What was read so far. -/
structure Progress where
  settings : Settings := {}
  /-- The settings that were given values. -/
  given : List Setting := []
  /-- The last name, with the value that follows it if that was read. -/
  pending : Option (Setting × Option String) := none
  /-- Are all arguments from here on without names? -/
  isTrailing : Bool := false
  deriving DecidableEq, Repr

/-- Refuses the command line. -/
def fail (e : UsageError) : Except Refusal α := .error (.usage e)

/-- Gives a setting a value, unless it has one. -/
def assign (p : Progress) (s : Setting) (value : String) : Except Refusal Progress :=
  if p.given.contains s then fail (.repeated s)
  else
    match s.set p.settings value with
    | .ok settings => .ok { p with settings, given := s :: p.given }
    | .error fault => fail (.badValue s value fault)

/-- Settles the name that was read last. -/
def conclude (p : Progress) : Except Refusal Progress :=
  match p.pending with
  | none => .ok p
  | some (s, none) => fail (.missingValue s)
  | some (s, some value) => assign { p with pending := none } s value

/-- A name, with the value after its equals sign. -/
def takeName (p : Progress) (name : String) (value : Option String) : Except Refusal Progress :=
  let stop (r : Refusal) : Except Refusal Progress :=
    match value with
    | some v => fail (.surplusValue ("--" ++ name) v)
    | none => (conclude p).bind fun _ => .error r
  if name = "help" then stop .help
  else if name = "version" then stop .version
  else
    match Setting.ofFlag name, value with
    | none, _ => fail (.unknown ("--" ++ name))
    | some s, none => do
      let p ← conclude p
      if s.isSwitch then assign p s "true" else .ok { p with pending := some (s, none) }
    | some s, some v =>
      if s.isSwitch then fail (.surplusValue s.shown v)
      else (conclude p).bind fun p => assign p s v

/-- Letters after one hyphen; only two are known. -/
def takeLetter (p : Progress) (letter : Char) : Except Refusal Progress :=
  if letter = 'h' then (conclude p).bind fun _ => .error .help
  else if letter = 'V' then (conclude p).bind fun _ => .error .version
  else fail (.unknown ("-" ++ String.singleton letter))

/-- Takes one argument. -/
def take (p : Progress) (argument : String) : Except Refusal Progress :=
  if p.isTrailing then fail (.unknown argument)
  else
    match argument.toList with
    | ['-', '-'] => .ok { p with isTrailing := true }
    | '-' :: '-' :: rest =>
      let (name, value) := Text.cutAt '=' rest
      takeName p (String.ofList name) (value.map String.ofList)
    | '-' :: letter :: _ => takeLetter p letter
    | _ =>
      match p.pending with
      | some (s, none) => .ok { p with pending := some (s, some argument) }
      | _ => fail (.unknown argument)

/-- Takes a setting from the environment, unless the command line gave it a value. -/
def takeVariable (environment : String → Option String) (p : Progress) (s : Setting) :
    Except Refusal Progress :=
  if p.given.contains s then .ok p
  else
    match environment s.envName with
    | none => .ok p
    | some value => assign p s value

/-- The settings of a command line and an environment. -/
def read (arguments : List String) (environment : String → Option String) :
    Except Refusal Settings := do
  let p ← arguments.foldlM take {}
  let p ← conclude p
  let p ← Setting.all.foldlM (takeVariable environment) p
  .ok p.settings

end CommandLine

end OfferService
