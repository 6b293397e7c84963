import OfferService.Text.Number

/-
  OfferService.Event.Calendar

  Moments as dates of the Gregorian calendar, which is applied to all years, also those before it
  was decreed. A leap second is the second 60 of its minute.
-/
namespace OfferService

/-- A moment: seconds since the beginning of 1970 and nanoseconds on top of them. A count of 10^9
    or more stands for a leap second. -/
structure Moment where
  seconds : Int := 0
  nanos : Nat := 0
  deriving DecidableEq, Repr, Inhabited

/-- A day of the calendar. -/
structure Date where
  year : Int
  month : Nat
  day : Nat
  deriving DecidableEq, Repr

namespace Date

/-- Days in 400 years. -/
def daysInEra : Int := 146097

/-- Days from the first of March of the year 0 to the beginning of 1970. -/
def daysToEpoch : Int := 719468

/-- The date of a day that is counted from the beginning of 1970. Years are taken to begin in
    March, so that the leap day is the last of its year. -/
def ofDays (days : Int) : Date :=
  let shifted := days + daysToEpoch
  let era := shifted / daysInEra
  let dayOfEra := (shifted % daysInEra).toNat
  let yearOfEra := (dayOfEra - dayOfEra / 1460 + dayOfEra / 36524 - dayOfEra / 146096) / 365
  let dayOfYear := dayOfEra - (365 * yearOfEra + yearOfEra / 4 - yearOfEra / 100)
  let monthFromMarch := (5 * dayOfYear + 2) / 153
  let month := if monthFromMarch < 10 then monthFromMarch + 3 else monthFromMarch - 9
  { year := era * 400 + yearOfEra + (if month ≤ 2 then 1 else 0)
    month
    day := dayOfYear - (153 * monthFromMarch + 2) / 5 + 1 }

/-- A year in at least four digits, with a sign outside 0 to 9999. -/
def yearText (year : Int) : String :=
  if 0 ≤ year ∧ year ≤ 9999 then Text.padded 4 year.toNat
  else (if year < 0 then "-" else "+") ++ Text.padded 4 year.natAbs

end Date

namespace Moment

/-- The part of a second in the fewest of 0, 3, 6 and 9 digits that lose nothing. -/
def fractionText (nanos : Nat) : String :=
  if nanos = 0 then ""
  else if nanos % 1000000 = 0 then "." ++ Text.padded 3 (nanos / 1000000)
  else if nanos % 1000 = 0 then "." ++ Text.padded 6 (nanos / 1000)
  else "." ++ Text.padded 9 nanos

/-- The moment as date and time of day, in universal time. -/
def render (m : Moment) : String :=
  let date := Date.ofDays (m.seconds / 86400)
  let second := (m.seconds % 86400).toNat
  let isLeap : Bool := 1000000000 ≤ m.nanos
  Date.yearText date.year ++ "-" ++ Text.padded 2 date.month ++ "-" ++ Text.padded 2 date.day ++
    "T" ++ Text.padded 2 (second / 3600) ++ ":" ++ Text.padded 2 (second / 60 % 60) ++ ":" ++
    Text.padded 2 (second % 60 + if isLeap then 1 else 0) ++
    fractionText (if isLeap then m.nanos - 1000000000 else m.nanos) ++ "Z"

end Moment

end OfferService
