import OfferService.Decimal.Shortest
import OfferService.Text.Quoted

/-
  OfferService.Json.Fault

  Why a JSON text is not the value that was wanted. Either the text is broken (malformed, or it
  ends too early), or it is well formed up to the fault and says something else than expected.
  Causes are data; their wording is in `Cause.message`.
-/
namespace OfferService.Json

/-- How a text can be broken. -/
inductive Break where
  | malformed
  | endOfText
  deriving DecidableEq, Repr

/-! ## What was found -/

/-- A value of the wrong kind, as a message shows it. -/
inductive Found where
  | null
  | boolean (b : Bool)
  | integer (n : Int)
  | real (negative : Bool) (b : Decimal.Binary)
  | text (s : String)
  | sequence
  | map
  deriving DecidableEq, Repr

/-- The value in words. -/
def Found.describe : Found → String
  | .null => "null"
  | .boolean b => "boolean `" ++ toString b ++ "`"
  | .integer n => "integer `" ++ toString n ++ "`"
  | .real negative b => "floating point `" ++ b.render negative ++ "`"
  | .text s => "string " ++ Text.quoted s
  | .sequence => "sequence"
  | .map => "map"

/-! ## What was wanted -/

/-- What a message says was expected. -/
inductive Expected where
  | natural (bits : Nat)
  | boolean
  | unit
  | sequence
  | record (name : String)
  | recordOf (name : String) (elements : Nat)
  | elements (count : Nat)
  | tagged (name : String)
  | variantOf (name : String) (variant : String)
  | variantName
  deriving DecidableEq, Repr

/-- `n` of a thing, in the plural unless there is one. -/
def counted (n : Nat) (thing : String) : String :=
  toString n ++ " " ++ thing ++ (if n = 1 then "" else "s")

/-- The expectation in words. -/
def Expected.describe : Expected → String
  | .natural bits => "u" ++ toString bits
  | .boolean => "a boolean"
  | .unit => "unit"
  | .sequence => "a sequence"
  | .record name => "struct " ++ name
  | .recordOf name n => "struct " ++ name ++ " with " ++ counted n "element"
  | .elements n => counted n "element" ++ " in sequence"
  | .tagged name => "adjacently tagged enum " ++ name
  | .variantOf name variant => "struct variant " ++ name ++ "::" ++ variant
  | .variantName => "variant identifier"

/-! ## Causes -/

/-- Why a well-formed value is not the one wanted. -/
inductive Cause where
  | wrongType (found : Found) (expected : Expected)
  | outOfRange (value : Int) (expected : Expected)
  | wrongLength (length : Nat) (expected : Expected)
  | missingField (name : String)
  | duplicateField (name : String)
  | unknownVariant (name : String) (known : List String)
  deriving DecidableEq, Repr

/-- The known names of a choice, each between backquotes. -/
def listed (names : List String) : String :=
  ", ".intercalate (names.map fun n => "`" ++ n ++ "`")

/-- The cause in words. -/
def Cause.message : Cause → String
  | .wrongType found expected =>
    "invalid type: " ++ found.describe ++ ", expected " ++ expected.describe
  | .outOfRange value expected =>
    "invalid value: integer `" ++ toString value ++ "`, expected " ++ expected.describe
  | .wrongLength n expected =>
    "invalid length " ++ toString n ++ ", expected " ++ expected.describe
  | .missingField name => "missing field `" ++ name ++ "`"
  | .duplicateField name => "duplicate field `" ++ name ++ "`"
  | .unknownVariant name known =>
    "unknown variant `" ++ name ++ "`, expected " ++
      (if known.length = 1 then listed known else "one of " ++ listed known)

/-! ## Where it is -/

/-- One step from a value to a part of it. -/
inductive Segment where
  | key (name : String)
  | index (i : Nat)
  deriving DecidableEq, Repr

/-- The steps from the whole text to the value at fault, outermost first. -/
abbrev Path := List Segment

/-- A path in words; a key that does not come first is set off by a point. -/
def Path.render : Path → String
  | [] => ""
  | first :: rest =>
    let shown : Segment → String
      | .key name => name
      | .index i => "[" ++ toString i ++ "]"
    rest.foldl
      (fun out s => out ++ (match s with | .key _ => "." | .index _ => "") ++ shown s)
      (shown first)

/-- The first fault of a text, in the order of the text. -/
inductive Fault where
  | broken (b : Break)
  | unfit (path : Path) (cause : Cause)
  deriving DecidableEq, Repr

/-- The same fault, seen from the value around it. -/
def Fault.under (s : Segment) : Fault → Fault
  | .broken b => .broken b
  | .unfit path cause => .unfit (s :: path) cause

/-- A fault of the value at hand. -/
def Fault.here (cause : Cause) : Fault := .unfit [] cause

/-- Marks the faults of a part by the way to it. -/
def within (s : Segment) (r : Except Fault α) : Except Fault α :=
  r.mapError (Fault.under s)

end OfferService.Json
