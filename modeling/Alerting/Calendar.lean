import Alerting.Instant

/-!
# Instants as calendar dates

The RFC 3339 form of an instant in UTC, in the proleptic Gregorian calendar. A year
outside 0000 to 9999 is written with its sign; an instant outside the years that have a
calendar date is written as its number of seconds.
-/

namespace Alerting

namespace Calendar

/-- A day of the proleptic Gregorian calendar. -/
structure Date where
  year : Int
  month : Nat
  day : Nat
  deriving DecidableEq, Repr

/--
The date of a day counted from 1970-01-01. Days are counted from the first of March of
the year 0, in eras of 400 years, so that a leap day is the last day of its year.
-/
def dateOfDay (day : Int) : Date :=
  let shifted := day + 719468
  let era := shifted / 146097
  let dayOfEra := (shifted % 146097).toNat
  let yearOfEra :=
    (dayOfEra - dayOfEra / 1460 + dayOfEra / 36524 - dayOfEra / 146096) / 365
  let dayOfYear := dayOfEra - (365 * yearOfEra + yearOfEra / 4 - yearOfEra / 100)
  let monthFromMarch := (5 * dayOfYear + 2) / 153
  let month := if monthFromMarch < 10 then monthFromMarch + 3 else monthFromMarch - 9
  { year := era * 400 + yearOfEra + (if month ≤ 2 then 1 else 0)
    month
    day := dayOfYear - (153 * monthFromMarch + 2) / 5 + 1 }

/-- A number with at least `width` digits. -/
def padded (width number : Nat) : String :=
  let digits := toString number
  String.ofList (List.replicate (width - digits.length) '0') ++ digits

/-- A year: four digits, and a sign if four digits are not enough. -/
def yearText (year : Int) : String :=
  if 0 ≤ year ∧ year ≤ 9999 then padded 4 year.toNat
  else (if year < 0 then "-" else "+") ++ padded 4 year.natAbs

/-- The years that have calendar dates. -/
def hasDate (year : Int) : Bool := -262143 ≤ year && year ≤ 262142

end Calendar

/-- The RFC 3339 form of an instant. -/
def Instant.display (instant : Instant) : String :=
  let seconds := instant.toInt
  let date := Calendar.dateOfDay (seconds / 86400)
  let time := (seconds % 86400).toNat
  let two := Calendar.padded 2
  if Calendar.hasDate date.year then
    Calendar.yearText date.year ++ "-" ++ two date.month ++ "-" ++ two date.day ++ "T" ++
      two (time / 3600) ++ ":" ++ two (time / 60 % 60) ++ ":" ++ two (time % 60) ++ "+00:00"
  else toString seconds

end Alerting
