import Handoff.Decimal.Notation

/-!
# Points in time

A point in time is a number of seconds since the beginning of 1970, written with date and time of
day.  The days are counted from a first of March, so that a leap day is the last one of its year.
-/

namespace Handoff.Moment

/-- days of four centuries -/
def daysPerEra : Nat := 146097

/-- from the first of March of the year 0 to the beginning of 1970 -/
def daysBefore : Nat := 719468

/-- year, month and day of a day that is counted from the beginning of 1970 -/
def date (days : Nat) : Nat × Nat × Nat :=
  let n := days + daysBefore
  let inEra := n % daysPerEra
  let yearOfEra := (inEra - inEra / 1460 + inEra / 36524 - inEra / 146096) / 365
  let inYear := inEra - (365 * yearOfEra + yearOfEra / 4 - yearOfEra / 100)
  let fromMarch := (5 * inYear + 2) / 153
  let month := if fromMarch < 10 then fromMarch + 3 else fromMarch - 9
  let year := yearOfEra + n / daysPerEra * 400 + (if month ≤ 2 then 1 else 0)
  (year, month, inYear - (153 * fromMarch + 2) / 5 + 1)

def text (seconds : Nat) : String :=
  let (year, month, day) := date (seconds / 86400)
  let inDay := seconds % 86400
  let two := Decimal.padLeft 2
  Decimal.padLeft 4 year ++ "-" ++ two month ++ "-" ++ two day ++ "T" ++ two (inDay / 3600) ++ ":"
    ++ two (inDay / 60 % 60) ++ ":" ++ two (inDay % 60) ++ "Z"

end Handoff.Moment
