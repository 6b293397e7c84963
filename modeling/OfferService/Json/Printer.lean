/-
  OfferService.Json.Printer

  Writing JSON: members in the order given, no blanks. A string keeps every character but quotes,
  backslashes and control characters.
-/
namespace OfferService.Json

/-- A value to be written. -/
inductive Value where
  | null
  | boolean (b : Bool)
  | natural (n : Nat)
  | string (s : String)
  | array (items : List Value)
  | object (members : List (String × Value))

/-! ## Strings -/

/-- A control character without a short escape: `\u` and four hexadecimal digits. -/
def escapeByCode (c : Char) : List Char :=
  let digits := Nat.toDigits 16 c.toNat
  '\\' :: 'u' :: (List.replicate (4 - digits.length) '0' ++ digits)

/-- A character as it stands inside a string. -/
def escapeChar (c : Char) : List Char :=
  if c = '"' then ['\\', '"']
  else if c = '\\' then ['\\', '\\']
  else if c = '\x08' then ['\\', 'b']
  else if c = '\x0c' then ['\\', 'f']
  else if c = '\n' then ['\\', 'n']
  else if c = '\r' then ['\\', 'r']
  else if c = '\t' then ['\\', 't']
  else if c.toNat < 0x20 then escapeByCode c
  else [c]

/-- A string between its quotes. -/
def stringText (s : String) : List Char :=
  '"' :: (s.toList.flatMap escapeChar ++ ['"'])

/-! ## Values -/

/-- Parts with a comma between each two. -/
def separated : List (List Char) → List Char
  | [] => []
  | [part] => part
  | part :: parts => part ++ ',' :: separated parts

mutual

/-- The text of a value. -/
def Value.chars : Value → List Char
  | .null => ['n', 'u', 'l', 'l']
  | .boolean true => ['t', 'r', 'u', 'e']
  | .boolean false => ['f', 'a', 'l', 's', 'e']
  | .natural n => (toString n).toList
  | .string s => stringText s
  | .array items => '[' :: (separated (Value.itemChars items) ++ [']'])
  | .object members => '\x7b' :: (separated (Value.memberChars members) ++ ['\x7d'])

/-- The text of each item. -/
def Value.itemChars : List Value → List (List Char)
  | [] => []
  | v :: vs => v.chars :: Value.itemChars vs

/-- The text of each member. -/
def Value.memberChars : List (String × Value) → List (List Char)
  | [] => []
  | (name, v) :: ms => (stringText name ++ ':' :: v.chars) :: Value.memberChars ms

end

/-- The text of a value. -/
def Value.render (v : Value) : String := String.ofList v.chars

end OfferService.Json
