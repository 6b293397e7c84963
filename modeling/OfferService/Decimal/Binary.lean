/-
  OfferService.Decimal.Binary

  Numbers of the binary double format, in exact arithmetic. A value is `mantissa · 2 ^ exponent`
  with a mantissa below 2^53; a mantissa below 2^52 occurs only at the least exponent. Quotients
  are rounded to the nearest such value, a tie to the even mantissa.
-/
namespace OfferService.Decimal

/-- A finite number of the double format, without its sign. -/
structure Binary where
  mantissa : Nat
  exponent : Int
  deriving DecidableEq, Repr

namespace Binary

/-- The exponent of the smallest numbers. -/
def minExponent : Int := -1074

/-- The largest exponent of a finite number. -/
def maxExponent : Int := 971

/-- The number zero. -/
def zero : Binary := ⟨0, minExponent⟩

/-- Is this zero? -/
def isZero (b : Binary) : Bool := b.mantissa == 0

/-! ## Rounding -/

/-- A quotient rounded to the nearest whole number, a tie to the even one. -/
def divNearest (num den : Nat) : Nat :=
  let q := num / den
  let twice := 2 * (num % den)
  if twice < den then q
  else if twice > den then q + 1
  else if q % 2 = 0 then q else q + 1

/-- `num / den` scaled by `2 ^ -exponent` and rounded to a whole number. -/
def scaledNearest (num den : Nat) (exponent : Int) : Nat :=
  match exponent with
  | .ofNat e => divNearest num (den * Nat.pow 2 e)
  | .negSucc e => divNearest (num * Nat.pow 2 (e + 1)) den

/-- The exponent at which `num / den` has a mantissa of 53 bits, or the least exponent. -/
def exponentOf (num den : Nat) : Int :=
  let guess : Int := (Nat.log2 num : Int) - (Nat.log2 den : Int) - 52
  -- the quotient of the leading bits is off by one at most
  let tooLarge : Bool :=
    match guess with
    | .ofNat e => num < den * Nat.pow 2 e * Nat.pow 2 52
    | .negSucc e => num * Nat.pow 2 (e + 1) < den * Nat.pow 2 52
  max (if tooLarge then guess - 1 else guess) minExponent

/-- `num / den` rounded to a number of the format; `none` if it is too large for one. -/
def ofQuotient (num den : Nat) : Option Binary :=
  if num = 0 then some zero
  else
    let e := exponentOf num den
    let m := scaledNearest num den e
    let r : Binary := if m = Nat.pow 2 53 then ⟨Nat.pow 2 52, e + 1⟩ else ⟨m, e⟩
    if r.exponent ≤ maxExponent then some r else none

/-- A whole number rounded to the format. -/
def ofNat (n : Nat) : Option Binary := ofQuotient n 1

/-! ## Products and quotients -/

/-- The value as a fraction. -/
def toFraction (b : Binary) : Nat × Nat :=
  match b.exponent with
  | .ofNat e => (b.mantissa * Nat.pow 2 e, 1)
  | .negSucc e => (b.mantissa, Nat.pow 2 (e + 1))

/-- The rounded product; `none` if it is too large. -/
def mul (a b : Binary) : Option Binary :=
  let (an, ad) := a.toFraction
  let (bn, bd) := b.toFraction
  ofQuotient (an * bn) (ad * bd)

/-- The rounded quotient; `none` if it is too large. -/
def div (a b : Binary) : Option Binary :=
  let (an, ad) := a.toFraction
  let (bn, bd) := b.toFraction
  ofQuotient (an * bd) (ad * bn)

/-! ## Scaling by a power of ten -/

/-- Powers of ten beyond this one are not in the format. -/
def maxPower : Nat := 308

/-- `10 ^ k`, rounded to the format. -/
def powerOfTen (k : Nat) : Option Binary := ofNat (Nat.pow 10 k)

/-- Divides by `10 ^ k` in steps the format can hold, and stops at zero. -/
def downByPower : Nat → Binary → Nat → Option Binary
  | 0, _, _ => some zero
  | steps + 1, b, k =>
    if k ≤ maxPower then do b.div (← powerOfTen k)
    else if b.isZero then some b
    else do downByPower steps (← b.div (← powerOfTen maxPower)) (k - maxPower)

/-- `significand · 10 ^ power`: the significand is rounded first and the power applied to it
    after that. `none` if the result is too large. -/
def scale (significand : Nat) (power : Int) : Option Binary := do
  let b ← ofNat significand
  match power with
  | .ofNat k =>
    if k ≤ maxPower then b.mul (← powerOfTen k)
    else if b.isZero then some b else none
  -- after four steps of 308 every number of the format is zero
  | .negSucc k => downByPower 4 b (k + 1)

end Binary

end OfferService.Decimal
