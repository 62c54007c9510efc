import Overseer.Time.Basic

/-!
# Written instants

`Instant.stamp` writes an instant in UTC as `YYYY-MM-DDTHH:MM:SS[.fraction]Z`
over the proleptic Gregorian calendar, which has a year 0. Years 0 to 9999 take
four digits; any other year has a sign and at least four digits. The fraction is
left out when it is zero and is otherwise the shortest of three, six or nine
digits that loses nothing.
-/

namespace Overseer

/-! ## Decimal digits -/

/-- The decimal digits of `n`, filled up with zeros on the left to `width`. -/
def paddedDecimal (width n : Nat) : String :=
  String.ofList (List.leftpad width '0' (Nat.toDigits 10 n))

/-! ## Calendar dates -/

/-- A date of the proleptic Gregorian calendar. -/
structure CalendarDate where
  year : Int
  month : Int
  day : Int
  deriving DecidableEq

namespace CalendarDate

/-- The date `days` after 1970-01-01. Years are counted from March inside the
400-year cycle that holds the day, so that the leap day ends its year. -/
def ofDays (days : Int) : CalendarDate :=
  let shifted := days + 719468
  let cycle := shifted / 146097
  let dayOfCycle := shifted % 146097
  let yearOfCycle :=
    (dayOfCycle - dayOfCycle / 1460 + dayOfCycle / 36524 - dayOfCycle / 146096) / 365
  let dayOfYear := dayOfCycle - (365 * yearOfCycle + yearOfCycle / 4 - yearOfCycle / 100)
  let monthFromMarch := (5 * dayOfYear + 2) / 153
  let month := if monthFromMarch < 10 then monthFromMarch + 3 else monthFromMarch - 9
  { year := yearOfCycle + cycle * 400 + (if month ≤ 2 then 1 else 0)
    month
    day := dayOfYear - (153 * monthFromMarch + 2) / 5 + 1 }

/-- The written year: four digits, with a sign outside 0 to 9999. -/
def yearText (year : Int) : String :=
  let digits := paddedDecimal 4 year.natAbs
  if 0 ≤ year ∧ year ≤ 9999 then digits
  else if year < 0 then "-" ++ digits
  else "+" ++ digits

def text (date : CalendarDate) : String :=
  yearText date.year ++ "-" ++ paddedDecimal 2 date.month.toNat ++ "-" ++
    paddedDecimal 2 date.day.toNat

end CalendarDate

/-! ## Stamps -/

/-- The fraction of a second, with its point, or nothing at all. -/
def fractionText (nanos : Nat) : String :=
  if nanos = 0 then ""
  else if nanos % 1000000 = 0 then "." ++ paddedDecimal 3 (nanos / 1000000)
  else if nanos % 1000 = 0 then "." ++ paddedDecimal 6 (nanos / 1000)
  else "." ++ paddedDecimal 9 nanos

/-- The time of day, given in seconds since midnight. -/
def timeOfDayText (seconds : Nat) : String :=
  paddedDecimal 2 (seconds / 3600) ++ ":" ++ paddedDecimal 2 (seconds / 60 % 60) ++ ":" ++
    paddedDecimal 2 (seconds % 60)

/-- The instant in UTC, to the nanosecond. -/
def Instant.stamp (instant : Instant) : String :=
  let seconds := instant.nanos / 1000000000
  (CalendarDate.ofDays (seconds / 86400)).text ++ "T" ++
    timeOfDayText (seconds % 86400).toNat ++
    fractionText (instant.nanos % 1000000000).toNat ++ "Z"

end Overseer
