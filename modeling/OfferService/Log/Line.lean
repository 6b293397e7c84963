import OfferService.Json.Printer
import OfferService.Log

/-
  OfferService.Log.Line

  How an entry is written: for people, with or without colours, or for programs.
-/
namespace OfferService.Log

/-- Who reads the log. -/
inductive Format where
  | plain
  | json
  deriving DecidableEq, Repr

/-- The format as it is asked for. -/
def Format.name : Format → String
  | .plain => "plain"
  | .json => "json"

/-- All formats. -/
def Format.all : List Format := [.plain, .json]

/-! ## Colours -/

/-- The code that sets the colour of a level. -/
def Level.colour : Level → String
  | .error => "1;31"
  | .warn => "33"
  | .info => "32"
  | .debug => "34"
  | .trace => "35"

/-- A text in a colour. -/
def painted (colour text : String) : String := "\x1b[" ++ colour ++ "m" ++ text ++ "\x1b[0m"

/-! ## Lines -/

/-- An entry for people. -/
def Entry.plainLine (e : Entry) (hasColours : Bool) : String :=
  let paint (colour text : String) : String := if hasColours then painted colour text else text
  untold ++ " " ++ paint "36" e.source.name ++ " [" ++ paint e.level.colour e.level.label ++ "] " ++
    e.text

/-- An entry for programs. -/
def Entry.jsonLine (e : Entry) : String :=
  let string (s : String) : String := (Json.Value.string s).render
  "\x7b\"level\":" ++ string e.level.label ++ ",\"msg\":" ++ string e.text ++ ",\"target\":" ++
    string e.source.name ++ ",\"ts\":" ++ untold ++ "\x7d"

/-- An entry as it is written. -/
def Entry.written (e : Entry) (format : Format) (hasColours : Bool) : String :=
  match format with
  | .plain => e.plainLine hasColours
  | .json => e.jsonLine

end OfferService.Log
