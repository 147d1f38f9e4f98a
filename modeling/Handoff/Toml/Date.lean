import Handoff.Decimal.Reader
import Handoff.Text.Chars

/-!
# Dates and times of TOML

A date, a time of day, or both with the distance from universal time.  Only the days that a month
has and the times that a clock shows are read.

* `moment?`    splits a date, a time or both from the head of a text.
-/

namespace Handoff.Toml

/-- a number of exactly `width` digits, and the rest -/
def fixedNumber? (width : Nat) (cs : List Char) : Option (Nat × List Char) :=
  let digits := cs.take width
  if digits.length = width && digits.all Chars.isAsciiDigit then
    some (Decimal.natOfDigits digits, cs.drop width)
  else none

/-- a number of two digits between two bounds, and the rest -/
def twoDigits? (least most : Nat) (cs : List Char) : Option (Nat × List Char) :=
  (fixedNumber? 2 cs).filter fun n => least ≤ n.1 && n.1 ≤ most

def mark? (c : Char) : List Char → Option (List Char)
  | d :: cs => if c = d then some cs else none
  | [] => none

def isLeapYear (year : Nat) : Bool := year % 4 = 0 && (year % 100 ≠ 0 || year % 400 = 0)

def daysInMonth (year month : Nat) : Nat :=
  if month = 2 then if isLeapYear year then 29 else 28
  else if [4, 6, 9, 11].contains month then 30 else 31

/-- the rest behind year, month and day -/
def date? (cs : List Char) : Option (List Char) := do
  let (year, cs) ← fixedNumber? 4 cs
  let (month, cs) ← twoDigits? 1 12 (← mark? '-' cs)
  let (_, cs) ← twoDigits? 1 (daysInMonth year month) (← mark? '-' cs)
  return cs

/-- the rest behind a point and digits, if there are any -/
def dropFraction (cs : List Char) : List Char :=
  match cs with
  | '.' :: r =>
    if (r.takeWhile Chars.isAsciiDigit).isEmpty then cs else r.dropWhile Chars.isAsciiDigit
  | _ => cs

/-- the rest behind hour, minute and second, which may be a leap second -/
def time? (cs : List Char) : Option (List Char) := do
  let (_, cs) ← twoDigits? 0 23 cs
  let (_, cs) ← twoDigits? 0 59 (← mark? ':' cs)
  let (_, cs) ← twoDigits? 0 60 (← mark? ':' cs)
  return dropFraction cs

/-- the rest behind the distance from universal time -/
def offset? (cs : List Char) : Option (List Char) :=
  match cs with
  | [] => none
  | c :: r =>
    if c = 'Z' || c = 'z' then some r
    else if c = '+' || c = '-' then do
      let (_, cs) ← twoDigits? 0 23 r
      let (_, cs) ← twoDigits? 0 59 (← mark? ':' cs)
      return cs
    else none

/-- the rest behind a time of day that a date is followed by -/
def timeOfDate? (cs : List Char) : Option (List Char) :=
  match cs with
  | [] => none
  | c :: r =>
    if "Tt ".toList.contains c then (time? r).map fun r => (offset? r).getD r else none

/-- the rest behind a date, a time or both -/
def dropMoment? (cs : List Char) : Option (List Char) :=
  match date? cs with
  | some r => some ((timeOfDate? r).getD r)
  | none => time? cs

/-- a date, a time or both, as it is written, and the rest -/
def moment? (cs : List Char) : Option (String × List Char) :=
  (dropMoment? cs).map fun r => (String.ofList (cs.take (cs.length - r.length)), r)

end Handoff.Toml
