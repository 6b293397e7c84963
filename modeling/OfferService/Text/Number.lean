/-
  OfferService.Text.Number

  Whole numbers in decimal, and single hexadecimal digits. Reading a number goes from left to right
  and stops at the first thing that is wrong, so that a digit too many is reported only when no
  stranger stands before it.
-/
namespace OfferService.Text

/-- Why a text is not a whole number of the wanted size. -/
inductive NumberFault where
  | empty
  | invalidDigit
  | tooLarge
  | tooSmall
  deriving DecidableEq, Repr

/-- The fault in words. -/
def NumberFault.message : NumberFault → String
  | .empty => "cannot parse integer from empty string"
  | .invalidDigit => "invalid digit found in string"
  | .tooLarge => "number too large to fit in target type"
  | .tooSmall => "number too small to fit in target type"

/-- The value of a decimal digit. -/
def digit? (c : Char) : Option Nat :=
  if '0' ≤ c ∧ c ≤ '9' then some (c.toNat - '0'.toNat) else none

/-- The value of a hexadecimal digit, in either case. -/
def hexDigit? (b : UInt8) : Option Nat :=
  if 0x30 ≤ b ∧ b ≤ 0x39 then some (b.toNat - 0x30)
  else if 0x61 ≤ b ∧ b ≤ 0x66 then some (b.toNat - 0x61 + 10)
  else if 0x41 ≤ b ∧ b ≤ 0x46 then some (b.toNat - 0x41 + 10)
  else none

/-- Reads the digits that follow the number `acc` read so far; `excess` is the fault of a number
    above `max`. -/
def readDigits (max : Nat) (excess : NumberFault) : Nat → List Char → Except NumberFault Nat
  | acc, [] => .ok acc
  | acc, c :: rest =>
    match digit? c with
    | none => .error .invalidDigit
    | some d =>
      if acc * 10 + d ≤ max then readDigits max excess (acc * 10 + d) rest else .error excess

/-- Reads a number from 0 to `max`; one plus sign may stand in front. -/
def readNatural (max : Nat) : List Char → Except NumberFault Nat
  | [] => .error .empty
  | ['+'] => .error .invalidDigit
  | '+' :: digits => readDigits max .tooLarge 0 digits
  | digits => readDigits max .tooLarge 0 digits

/-- Reads a number from `-(max + 1)` to `max`; one sign may stand in front. -/
def readInteger (max : Nat) : List Char → Except NumberFault Int
  | [] => .error .empty
  | ['+'] => .error .invalidDigit
  | ['-'] => .error .invalidDigit
  | '+' :: digits => (readDigits max .tooLarge 0 digits).map Int.ofNat
  | '-' :: digits => (readDigits (max + 1) .tooSmall 0 digits).map fun n => -Int.ofNat n
  | digits => (readDigits max .tooLarge 0 digits).map Int.ofNat

/-- The largest 32-bit number without a sign. -/
def maxNatural32 : Nat := Nat.pow 2 32 - 1

/-- The largest 64-bit number without a sign. -/
def maxNatural64 : Nat := Nat.pow 2 64 - 1

/-- The largest 64-bit number with a sign. -/
def maxInteger64 : Nat := Nat.pow 2 63 - 1

/-- A number in decimal, padded on the left with zeros up to `width` digits. -/
def padded (width n : Nat) : String :=
  let digits := toString n
  "".pushn '0' (width - digits.length) ++ digits

end OfferService.Text
