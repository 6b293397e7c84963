import OfferService.Text.Cut
import OfferService.Text.Number
import OfferService.Text.Utf8

/-
  OfferService.Text.Percent

  Bytes that were written as a percent sign and two hexadecimal digits, and forms: names and values
  in one line.
-/
namespace OfferService.Text

/-! ## Percent signs -/

/-- Bytes with those restored that were written with a percent sign; a percent sign without two
    digits stands for itself. -/
def percentDecode : List UInt8 → List UInt8
  | [] => []
  | 0x25 :: a :: b :: rest =>
    match hexDigit? a, hexDigit? b with
    | some high, some low => UInt8.ofNat (high * 16 + low) :: percentDecode rest
    | _, _ => 0x25 :: percentDecode (a :: b :: rest)
  | b :: rest => b :: percentDecode rest

/-! ## Forms -/

/-- A part of a form as it is meant: a plus sign is a space. What is no text is replaced. -/
def formText (s : List Char) : String :=
  let spaced := s.map fun c => if c = '+' then ' ' else c
  String.ofList (Utf8.decodeLenient
    (percentDecode (Utf8.encode (String.ofList spaced))))

/-- The names and values of a form. -/
def formPairs (s : String) : List (String × String) :=
  let pair (part : List Char) : String × String :=
    let (name, value) := cutAt '=' part
    (formText name, formText (value.getD []))
  ((splitAt '&' s.toList).filter fun part => !part.isEmpty).map pair

end OfferService.Text
