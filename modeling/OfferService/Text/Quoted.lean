import OfferService.Text.Hidden

/-
  OfferService.Text.Quoted

  Text shown inside a message: between double quotes, with quotes, backslashes, line breaks and
  everything a reader could not see written as escapes. A hidden character is written by its
  number in hexadecimal, `\u{…}`.
-/
namespace OfferService.Text

/-! ## One character -/

/-- Lower-case hexadecimal digits of a number, at least one. -/
def hexDigits (n : Nat) : List Char := Nat.toDigits 16 n

/-- A character by its number: `\u` and the hexadecimal code in braces. -/
def escapeByNumber (c : Char) : List Char :=
  '\\' :: 'u' :: '\x7b' :: (hexDigits c.toNat ++ ['\x7d'])

/-- A character as it stands inside quotes. -/
def quoteChar (c : Char) : List Char :=
  if c = '\x00' then ['\\', '0']
  else if c = '\t' then ['\\', 't']
  else if c = '\n' then ['\\', 'n']
  else if c = '\r' then ['\\', 'r']
  else if c = '\\' then ['\\', '\\']
  else if c = '"' then ['\\', '"']
  else if c.toNat < 0x20 ∨ c.toNat = 0x7f then escapeByNumber c
  else if c.toNat < 0x80 then [c]
  else if isHidden c.toNat then escapeByNumber c
  else [c]

/-! ## A whole text -/

/-- A text between double quotes, every character in its quoted form. -/
def quoted (s : String) : String :=
  "\"" ++ String.ofList (s.toList.flatMap quoteChar) ++ "\""

end OfferService.Text
