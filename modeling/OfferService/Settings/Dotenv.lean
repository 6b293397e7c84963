import OfferService.Text.Blank
import OfferService.Text.Letter

/-
  OfferService.Settings.Dotenv

  Variables from a file. A line names a variable and gives it a value, which may be quoted, may go
  on over several lines inside quotes, and may refer to other variables. Two kinds of quotes are
  known: inside single ones everything stands for itself. A comment begins at a number sign at the
  beginning of a line or after a blank.
-/
namespace OfferService.Dotenv

/-- What is wrong with a line, and where. -/
structure Fault where
  line : String
  index : Nat
  deriving DecidableEq, Repr

/-- The fault in words. -/
def Fault.message (f : Fault) : String :=
  "Error parsing line: '" ++ f.line ++ "', error at line index: " ++ toString f.index

/-! ## Whole lines -/

/-- Where a scan over characters stands that looks for the end of a line. -/
inductive Scan where
  | plain
  | blank
  | escape
  | single
  | singleEscape
  | double
  | doubleEscape
  deriving DecidableEq, Repr

/-- What a character outside quotes begins. -/
def opening (c : Char) : Scan :=
  if c = '\\' then .escape else if c = '"' then .double else if c = '\'' then .single else .plain

/-- The scan after a character; nothing if a comment begins. -/
def Scan.next (s : Scan) (c : Char) : Option Scan :=
  match s with
  | .blank => if c = '#' then none else some (opening c)
  | .escape => some .plain
  | .plain =>
    some (if Text.isBlank c && c ≠ '\n' && c ≠ '\r' then .blank else opening c)
  | .double =>
    some (if c = '\\' then .doubleEscape else if c = '"' then .plain else .double)
  | .doubleEscape => some .double
  | .single =>
    some (if c = '\\' then .singleEscape else if c = '\'' then .plain else .single)
  | .singleEscape => some .single

/-- Scans a line; tells how it ends, or the part before the comment. -/
def scan (s : Scan) (before : List Char) : List Char → Scan ⊕ List Char
  | [] => .inl s
  | c :: rest =>
    match s.next c with
    | some s => scan s (c :: before) rest
    | none => .inr before.reverse

/-- A text in lines, each with its line break. -/
def physicalLines (s : List Char) : List (List Char) :=
  s.foldr
    (fun c lines =>
      if c = '\n' then ['\n'] :: lines
      else
        match lines with
        | [] => [[c]]
        | line :: rest => (c :: line) :: rest)
    []

/-- A line without its line break. -/
def withoutBreak (s : List Char) : List Char :=
  match s.reverse with
  | '\n' :: '\r' :: rest => rest.reverse
  | '\n' :: rest => rest.reverse
  | _ => s

/-- The lines that belong together, joined, without comments; or the fault of an end that comes too
    early. `sofar` is what was read of a line that goes on. -/
def logicalLines (sofar : List Char) (s : Scan) :
    List (List Char) → List (Except Fault (List Char))
  | [] =>
    let text := String.ofList sofar
    if s = .plain then [] else [.error ⟨text, text.utf8ByteSize⟩]
  | line :: rest =>
    let all := sofar ++ line
    if (all.dropWhile Text.isBlank).head? = some '#' then .ok [] :: logicalLines [] .plain rest
    else
      match scan s [] line with
      | .inl .plain => .ok (withoutBreak all) :: logicalLines [] .plain rest
      | .inl s => logicalLines all s rest
      | .inr before => .ok (sofar ++ before) :: logicalLines [] .plain rest

/-! ## Values -/

/-- How a reference to a variable is written that is being read. -/
inductive Reference where
  /-- After a dollar sign: as long as there are letters and digits. -/
  | bare
  /-- In braces. -/
  | braced
  deriving DecidableEq, Repr

/-- What was read of a value. -/
structure Value where
  isSingle : Bool := false
  isDouble : Bool := false
  isEscaped : Bool := false
  /-- A blank has ended the value; only a comment may follow. -/
  isOver : Bool := false
  /-- A comment has begun. -/
  isDone : Bool := false
  reference : Option Reference := none
  /-- The name of the variable referred to, last character first. -/
  name : List Char := []
  /-- The value, last character first. -/
  chars : List Char := []
  deriving Repr

namespace Value

/-- Adds a character. -/
def push (v : Value) (c : Char) : Value := { v with chars := c :: v.chars }

/-- Puts the value of the variable referred to in its place. -/
def substitute (lookup : String → String) (v : Value) : Value :=
  { v with
    chars := (lookup (String.ofList v.name.reverse)).toList.reverse ++ v.chars
    name := [] }

/-- Takes a character of a reference. -/
def takeReferred (lookup : String → String) (v : Value) (r : Reference) (c : Char) : Value :=
  if Text.isLetterOrDigit c then { v with name := c :: v.name }
  else
    match r with
    | .bare =>
      if c = '\x7b' ∧ v.name.isEmpty then { v with reference := some .braced }
      else
        let v := v.substitute lookup
        if c = '$' then { v with reference := some .bare } else { v with reference := none }.push c
    | .braced =>
      if c = '\x7d' then { v with reference := none }.substitute lookup
      else { v with name := c :: v.name }

/-- Takes a character, if it may stand here. -/
def take (lookup : String → String) (v : Value) (c : Char) : Option Value :=
  if v.isDone then some v
  else if v.isOver then
    if c = ' ' ∨ c = '\t' then some v
    else if c = '#' then some { v with isDone := true }
    else none
  else if v.isEscaped then
    let v := { v with isEscaped := false }
    if "\\'\"$ ".toList.contains c then some (v.push c)
    else if c = 'n' then some (v.push '\n')
    else none
  else if v.isSingle then some (if c = '\'' then { v with isSingle := false } else v.push c)
  else
    match v.reference with
    | some r => some (v.takeReferred lookup r c)
    | none =>
      if c = '$' then some { v with reference := some .bare }
      else if v.isDouble then
        some (if c = '"' then { v with isDouble := false }
          else if c = '\\' then { v with isEscaped := true }
          else v.push c)
      else if c = '\'' then some { v with isSingle := true }
      else if c = '"' then some { v with isDouble := true }
      else if c = '\\' then some { v with isEscaped := true }
      else if c = ' ' ∨ c = '\t' then some { v with isOver := true }
      else some (v.push c)

/-- Takes characters, the first of which has number `i`; tells the number of one that may not stand
    where it does. -/
def takeAll (lookup : String → String) (v : Value) : (i : Nat) → List Char → Except Nat Value
  | _, [] => .ok v
  | i, c :: rest =>
    match v.take lookup c with
    | some v => v.takeAll lookup (i + 1) rest
    | none => .error i

/-- Reads a value. -/
def read (lookup : String → String) (s : List Char) : Except Fault String :=
  let text := String.ofList s
  match takeAll lookup {} 0 s with
  | .error i => .error ⟨text, i⟩
  | .ok v =>
    if v.reference = some .braced ∨ v.isSingle ∨ v.isDouble then
      .error ⟨text, text.utf8ByteSize - 1⟩
    else .ok (String.ofList (v.substitute lookup).chars.reverse)

end Value

/-! ## Assignments -/

/-- Passes over blanks, and counts their bytes. -/
def skipBlanks (at_ : Nat) (s : List Char) : Nat × List Char :=
  (at_ + (String.ofList (s.takeWhile Text.isBlank)).utf8ByteSize, s.dropWhile Text.isBlank)

/-- Reads a name; tells where one should have been. -/
def readName (at_ : Nat) (s : List Char) : Except Nat (String × Nat × List Char) :=
  if s.head?.any fun c => c.isAlpha || c = '_' then
    let isNameChar (c : Char) : Bool := c.isAlphanum || c = '_' || c = '.'
    let name := s.takeWhile isNameChar
    .ok (String.ofList name, at_ + name.length, s.dropWhile isNameChar)
  else .error at_

/-- Reads an equals sign; tells where one should have been. -/
def readEquals (at_ : Nat) : List Char → Except Nat (Nat × List Char)
  | '=' :: rest => .ok (at_ + 1, rest)
  | _ => .error at_

/-- Reads a name and the equals sign after it; the word `export` may come first. -/
def readHead (s : List Char) : Except Nat (String × List Char) := do
  let (at_, s) := skipBlanks 0 s
  let (name, at_, s) ← readName at_ s
  let (at_, s) := skipBlanks at_ s
  match readEquals at_ s with
  | .ok (_, s) => .ok (name, s)
  | .error i =>
    if name = "export" then
      let (name, at_, s) ← readName at_ s
      let (at_, s) := skipBlanks at_ s
      let (_, s) ← readEquals at_ s
      .ok (name, s)
    else .error i

/-- Reads a line: a name and a value, or nothing. -/
def readLine (lookup : String → String) (line : List Char) :
    Except Fault (Option (String × String)) :=
  let s := Text.trimEnd line
  let first := (s.dropWhile Text.isBlank).head?
  if first = none ∨ first = some '#' then .ok none
  else
    match readHead s with
    | .error i => .error ⟨String.ofList line, i⟩
    | .ok (name, rest) =>
      let rest := rest.dropWhile Text.isBlank
      if rest.isEmpty ∨ rest.head? = some '#' then .ok (some (name, ""))
      else (Value.read lookup rest).map fun value => some (name, value)

/-! ## Files -/

/-- An environment: names and values, the one that counts first. -/
abbrev Environment := List (String × String)

/-- Adds what the lines of a file say, up to a fault. A variable that has a value keeps it; in
    references, the values of the file count where the environment has none. -/
def loadLines (env : Environment) (read : Environment) :
    List (Except Fault (List Char)) → Environment × Option Fault
  | [] => (env, none)
  | .error f :: _ => (env, some f)
  | .ok line :: rest =>
    let lookup (name : String) : String :=
      ((env.lookup name).orElse fun _ => read.lookup name).getD ""
    match readLine lookup line with
    | .error f => (env, some f)
    | .ok none => loadLines env read rest
    | .ok (some (name, value)) =>
      let env := if (env.lookup name).isSome then env else (name, value) :: env
      loadLines env ((name, value) :: read) rest

/-- An environment with the variables of a file, up to the first fault in it. -/
def load (env : Environment) (text : String) : Environment × Option Fault :=
  let chars := match text.toList with
    | '\ufeff' :: rest => rest
    | cs => cs
  loadLines env [] (logicalLines [] .plain (physicalLines chars))

end OfferService.Dotenv
