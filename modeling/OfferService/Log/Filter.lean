import OfferService.Log
import OfferService.Text.Blank
import OfferService.Text.Cut

/-
  OfferService.Log.Filter

  Which entries are written. A filter has directives, each a limit for the sources whose names begin
  in a certain way; of those that apply, the one with the longest name decides. Entries may also be
  required to contain a text.
-/
namespace OfferService.Log

/-! ## Directives -/

/-- The most verbose level that is written, if anything is. -/
abbrev Limit := Option Level

/-- The limit of a name, in any case. -/
def limit? (name : String) : Option Limit :=
  if name.toLower = "off" then some none
  else (Level.all.find? fun l => l.name == name.toLower).map some

/-- A limit for some sources. -/
structure Directive where
  /-- How their names begin; nothing for all sources. -/
  name : Option String
  limit : Limit
  deriving DecidableEq, Repr

namespace Directive

/-- Does the directive apply to a source? -/
def covers (d : Directive) (s : Source) : Bool :=
  match d.name with
  | none => true
  | some name => name.isPrefixOf s.name

/-- How closely the directive describes its sources. -/
def weight (d : Directive) : Nat := (d.name.map String.utf8ByteSize).getD 0

/-- Does the directive let a level pass? -/
def passes (d : Directive) (l : Level) : Bool :=
  d.limit.any fun most => l.verbosity ≤ most.verbosity

/-- Reads a directive; says what is wrong if it cannot. A name alone stands for all its levels. -/
def ofText (s : List Char) : Except String Directive :=
  let wrong (part : List Char) := .error ("invalid logging spec '" ++ String.ofList part ++ "'")
  match Text.splitAt '=' s with
  | [name] =>
    let name := String.ofList name
    match limit? name with
    | some limit => .ok { name := none, limit }
    | none => .ok { name := some name, limit := some .trace }
  | [name, value] =>
    let value := Text.trim value
    if value.isEmpty then .ok { name := some (String.ofList name), limit := some .trace }
    else
      match limit? (String.ofList value) with
      | some limit => .ok { name := some (String.ofList name), limit }
      | none => wrong value
  | _ => wrong s

end Directive

/-! ## Filters -/

/-- What is written. -/
structure Filter where
  directives : List Directive := []
  /-- A text that entries have to contain. -/
  contained : Option String := none
  deriving DecidableEq, Repr

namespace Filter

/-- Adds a directive; it takes the place of one of the same name. -/
def insert (f : Filter) (d : Directive) : Filter :=
  if f.directives.any fun e => e.name == d.name then
    { f with directives := f.directives.map fun e => if e.name = d.name then d else e }
  else { f with directives := f.directives ++ [d] }

/-- Reads a filter; whatever cannot be read is passed over, and complained about. -/
def ofText (s : String) : Filter × List String :=
  let read (directives : List Char) (contained : Option (List Char)) : Filter × List String :=
    let parts := ((Text.splitAt ',' directives).map Text.trim).filter fun p => !p.isEmpty
    parts.foldl
      (fun (f, complaints) part =>
        match Directive.ofText part with
        | .ok d => (f.insert d, complaints)
        | .error e => (f, complaints ++ [e]))
      ({ contained := contained.map String.ofList }, [])
  match Text.splitAt '/' s.toList with
  | [directives] => read directives none
  | [directives, contained] => read directives (some contained)
  | _ => ({}, ["invalid logging spec '" ++ s ++ "' (too many '/'s)"])

/-- The directive that decides about a source. -/
def decisive? (f : Filter) (s : Source) : Option Directive :=
  (f.directives.filter fun d => d.covers s).foldl
    (fun best d =>
      match best with
      | none => some d
      | some b => if b.weight ≤ d.weight then some d else some b)
    none

/-- Is this text part of that one? -/
def isPart (part : List Char) : List Char → Bool
  | [] => part.isEmpty
  | c :: rest => part.isPrefixOf (c :: rest) || isPart part rest

/-- Is an entry written? -/
def admits (f : Filter) (e : Entry) : Bool :=
  (f.decisive? e.source).any (·.passes e.level) &&
    f.contained.all fun part => isPart part.toList e.text.toList

end Filter

end OfferService.Log
