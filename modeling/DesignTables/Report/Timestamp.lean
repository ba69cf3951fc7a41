import DesignTables.Number.Integer

/-!
Moments of the calendar, to the second, as they stand in file names and log lines.
-/
namespace DesignTables

/-- A date of the Gregorian calendar with a time of day. -/
structure Timestamp where
  year : Int
  month : Nat
  day : Nat
  hour : Nat
  minute : Nat
  second : Nat
deriving DecidableEq, Repr

namespace Timestamp

/-- Whether a year has a 29th of February. -/
def isLeap (year : Int) : Bool := year % 4 == 0 && (year % 100 != 0 || year % 400 == 0)

/-- The number of days of a month; none for a month that there is not. -/
def daysIn (year : Int) (month : Nat) : Nat :=
  match month with
  | 1 | 3 | 5 | 7 | 8 | 10 | 12 => 31
  | 4 | 6 | 9 | 11 => 30
  | 2 => if isLeap year then 29 else 28
  | _ => 0

/-- Whether a timestamp names a day of the calendar and a second of the day. Years are limited to
what fits into eighteen bits and a sign. -/
def isValid (t : Timestamp) : Bool :=
  -262143 ≤ t.year && t.year ≤ 262142 && 1 ≤ t.day && t.day ≤ daysIn t.year t.month &&
    t.hour < 24 && t.minute < 60 && t.second < 60

/-- A year with four digits; years outside them bear a sign. -/
def yearText (year : Int) : String :=
  if 0 ≤ year ∧ year ≤ 9999 then writePadded 4 year.natAbs
  else (if year < 0 then "-" else "+") ++ writePadded 4 year.natAbs

/-- The digits of the date, an underscore, and the digits of the time. -/
def fileText (t : Timestamp) : String :=
  yearText t.year ++ writePadded 2 t.month ++ writePadded 2 t.day ++ "_" ++
    writePadded 2 t.hour ++ writePadded 2 t.minute ++ writePadded 2 t.second

/-- The date and the time of a line in a log, to the microsecond. -/
def lineText (t : Timestamp) : String :=
  yearText t.year ++ "-" ++ writePadded 2 t.month ++ "-" ++ writePadded 2 t.day ++ "T" ++
    writePadded 2 t.hour ++ ":" ++ writePadded 2 t.minute ++ ":" ++ writePadded 2 t.second ++
    ".000000Z"

/-- The date of a number of days after the first of January 1970, with no time of day. The year is
counted from March, so that a leap day is its last day, in eras of 400 years. -/
def ofDays (days : Int) : Timestamp :=
  let fromMarch := days + 719468
  let era := fromMarch / 146097
  let dayOfEra := (fromMarch % 146097).toNat
  let yearOfEra := (dayOfEra - dayOfEra / 1460 + dayOfEra / 36524 - dayOfEra / 146096) / 365
  let dayOfYear := dayOfEra - (365 * yearOfEra + yearOfEra / 4 - yearOfEra / 100)
  let monthFromMarch := (5 * dayOfYear + 2) / 153
  let month := if monthFromMarch < 10 then monthFromMarch + 3 else monthFromMarch - 9
  { year := era * 400 + yearOfEra + (if month ≤ 2 then 1 else 0)
    month := month
    day := dayOfYear - (153 * monthFromMarch + 2) / 5 + 1
    hour := 0, minute := 0, second := 0 }

/-- The moment of a number of seconds after the beginning of 1970, in universal time. -/
def ofSeconds (seconds : Int) : Timestamp :=
  let secondOfDay := (seconds % 86400).toNat
  { ofDays (seconds / 86400) with
    hour := secondOfDay / 3600
    minute := secondOfDay % 3600 / 60
    second := secondOfDay % 60 }

end Timestamp

end DesignTables
