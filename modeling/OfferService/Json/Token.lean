import OfferService.Json.Fault

/-
  OfferService.Json.Token

  The tokens of a JSON text. A token that is broken ends the list, and says how: a value that is
  only passed over is examined less than one that is read, so the two can differ. The list of an
  unfinished text simply ends.
-/
namespace OfferService.Json

/-- What a number in the text stands for. Numbers with a point or an exponent, beyond 64 bits, or
    equal to minus zero are doubles. -/
inductive Numeral where
  | natural (n : Nat)
  | negative (n : Nat)
  | real (negative : Bool) (b : Decimal.Binary)
  | beyond
  deriving DecidableEq, Repr

/-- A token of a JSON text. -/
inductive Token where
  | openObject
  | closeObject
  | openArray
  | closeArray
  | comma
  | colon
  | null
  | boolean (b : Bool)
  | number (n : Numeral)
  | string (content : Except Break String)
  /-- A string that goes wrong before its closing quote. -/
  | unclosed (whenRead whenPassed : Break)
  /-- Anything else that goes wrong. -/
  | bad (whenRead whenPassed : Break)
  deriving Repr

/-! ## Numbers -/

/-- The parts of a number as written: sign, digits before and after the point, exponent. -/
structure NumberText where
  negative : Bool := false
  whole : List Nat := []
  /-- Digits after the point, if there is one. -/
  fraction : Option (List Nat) := none
  /-- Sign and digits of the exponent, if there is one. -/
  exponent : Option (Bool × List Nat) := none
  deriving DecidableEq, Repr

namespace NumberText

/-- The largest significand that is kept exactly. -/
def maxSignificand : Nat := Nat.pow 2 64 - 1

/-- Takes digits into the significand as long as it stays exact; returns it with the digits that
    are left over. -/
def takeDigits : Nat → List Nat → Nat × List Nat
  | acc, [] => (acc, [])
  | acc, d :: ds =>
    if acc * 10 + d ≤ maxSignificand then takeDigits (acc * 10 + d) ds else (acc, d :: ds)

/-- The exponent, as a whole number. -/
def power (t : NumberText) : Int :=
  match t.exponent with
  | none => 0
  | some (down, ds) =>
    let n : Nat := ds.foldl (fun acc d => acc * 10 + d) 0
    if down then -n else n

/-- The value of a number that is written as, or has to become, a double. Digits beyond an exact
    significand count before the point for their place only, and after it not at all. -/
def toReal (t : NumberText) : Numeral :=
  let (whole, beyond) := takeDigits 0 t.whole
  let (significand, beyondPoint) := takeDigits whole (t.fraction.getD [])
  let places : Int := ((t.fraction.getD []).length : Int) - beyondPoint.length
  match Decimal.Binary.scale significand (t.power + beyond.length - places) with
  | some b => .real t.negative b
  | none => .beyond

/-- What a number stands for. -/
def numeral (t : NumberText) : Numeral :=
  match t.fraction, t.exponent with
  | none, none =>
    let (n, beyond) := takeDigits 0 t.whole
    if beyond.isEmpty then
      if !t.negative then .natural n
      else if 0 < n ∧ n ≤ Nat.pow 2 63 then .negative n
      else t.toReal
    else t.toReal
  | _, _ => t.toReal

end NumberText

end OfferService.Json
