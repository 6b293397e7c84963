import OfferService.Decimal.Binary

/-
  OfferService.Decimal.Shortest

  The shortest decimal that reads back as a given double: of all decimals between its two
  neighbours' midpoints, one with the fewest digits, and of those the nearest. Digits are then
  written out positionally, or with an exponent when the number is very large or very small.
-/
namespace OfferService.Decimal

/-! ## Digits -/

/-- A decimal `digits · 10 ^ power`. -/
structure Digits where
  digits : Nat
  power : Int
  deriving DecidableEq, Repr

/-- The interval of values that round to a double, as a numerator pair over a common
    denominator: `low / den` to `high / den`, with the value itself `mid / den`. -/
structure Neighbourhood where
  low : Nat
  mid : Nat
  high : Nat
  den : Nat
  closed : Bool

/-- The values nearer to `b` than to the doubles beside it; the ends belong to it if the mantissa
    is even. -/
def Binary.neighbourhood (b : Binary) : Neighbourhood :=
  -- below a power of two the doubles lie twice as close
  let narrow := b.mantissa == Nat.pow 2 52 && b.exponent > Binary.minExponent
  let low := if narrow then 4 * b.mantissa - 1 else 4 * b.mantissa - 2
  let (num, den) := match b.exponent with
    | .ofNat e => (Nat.pow 2 e, 4)
    | .negSucc e => (1, 4 * Nat.pow 2 (e + 1))
  { low := low * num, mid := 4 * b.mantissa * num, high := (4 * b.mantissa + 2) * num, den := den,
    closed := b.mantissa % 2 == 0 }

/-- Is `n · 10 ^ power` in the neighbourhood? -/
def Neighbourhood.contains (h : Neighbourhood) (n : Nat) (power : Int) : Bool :=
  let (x, d) := match power with
    | .ofNat p => (n * Nat.pow 10 p * h.den, 1)
    | .negSucc p => (n * h.den, Nat.pow 10 (p + 1))
  if h.closed then h.low * d ≤ x && x ≤ h.high * d else h.low * d < x && x < h.high * d

/-- The decimal of the neighbourhood on the grid of `10 ^ power`, the nearest to the middle. -/
def Neighbourhood.onGrid? (h : Neighbourhood) (power : Int) : Option Digits :=
  let (num, den) := match power with
    | .ofNat p => (h.mid, h.den * Nat.pow 10 p)
    | .negSucc p => (h.mid * Nat.pow 10 (p + 1), h.den)
  let below := num / den
  let nearest := Binary.divNearest num den
  let other := if nearest = below then below + 1 else below
  if h.contains nearest power then some ⟨nearest, power⟩
  else if h.contains other power then some ⟨other, power⟩
  else none

/-- Tries the grids from coarse to fine. -/
def Neighbourhood.search (h : Neighbourhood) : Nat → Int → Digits
  | 0, power => ⟨h.mid / h.den, power⟩
  | n + 1, power =>
    match h.onGrid? power with
    | some d => if d.digits = 0 then h.search n (power - 1) else d
    | none => h.search n (power - 1)

/-- The fewest digits that read back. The search starts above every double and ends below the
    least. -/
def Binary.shortest (b : Binary) : Digits :=
  if b.isZero then ⟨0, 0⟩
  else
    -- `2 ^ (exponent + 53)` bounds the value, and three tenths of that exponent its decimal one
    let top : Int := (b.exponent + 53) * 30103 / 100000 + 1
    b.neighbourhood.search 40 top

/-! ## Writing -/

/-- The decimal exponent of the first digit, with the digits themselves. -/
def Digits.scientific (d : Digits) : List Char × Int :=
  let cs := (toString d.digits).toList
  (cs, d.power + (cs.length : Int) - 1)

/-- Numbers whose first digit has an exponent in this range are written positionally. -/
def positional : Int × Int := (-5, 15)

/-- The digits written out: with a point and at least one digit after it, or with an exponent
    that carries its sign. -/
def Digits.render (d : Digits) : String :=
  let (cs, first) := d.scientific
  String.ofList <|
    if d.digits = 0 then ['0', '.', '0']
    else if positional.1 ≤ first ∧ first ≤ positional.2 then
      match first with
      | .ofNat e =>
        if cs.length ≤ e + 1 then cs ++ List.replicate (e + 1 - cs.length) '0' ++ ['.', '0']
        else cs.take (e + 1) ++ '.' :: cs.drop (e + 1)
      | .negSucc e => '0' :: '.' :: (List.replicate e '0' ++ cs)
    else
      let lead := match cs with
        | c :: [] => [c]
        | c :: rest => c :: '.' :: rest
        | [] => []
      lead ++ 'e' :: (if first < 0 then '-' else '+') :: (toString first.natAbs).toList

/-- A signed double in the fewest digits that read back. -/
def Binary.render (negative : Bool) (b : Binary) : String :=
  (if negative then "-" else "") ++ b.shortest.render

end OfferService.Decimal
