import Handoff.Decimal.Binary
import Handoff.Text.Chars

/-!
# Durations

A duration is a number of nanoseconds, written as numbers with units: `1h 30m`, `250ms`.  A year has
365.25 days here and a month 30.44.

* `Duration.parse?`    reads a duration: several numbers, each with a unit, add up;
* `Duration.text`      writes it, the largest unit first.
-/

namespace Handoff

structure Duration where
  nanoseconds : Nat
deriving DecidableEq, Repr, Inhabited

namespace Duration

def second : Nat := Decimal.tenTo 9

def ofSeconds (n : Nat) : Duration := ⟨n * second⟩

def isZero (d : Duration) : Bool := d.nanoseconds = 0

/-! ## reading -/

/-- the names of a unit and its nanoseconds -/
def units : List (List String × Nat) := [
  (["nanos", "nsec", "ns"], 1), (["usec", "us", "µs"], 1000), (["millis", "msec", "ms"], 1000000),
  (["seconds", "second", "secs", "sec", "s"], second),
  (["minutes", "minute", "min", "mins", "m"], 60 * second),
  (["hours", "hour", "hr", "hrs", "h"], 3600 * second), (["days", "day", "d"], 86400 * second),
  (["weeks", "week", "wk", "wks", "w"], 604800 * second),
  (["months", "month", "M"], 2630016 * second),
  (["years", "year", "yr", "yrs", "y"], 31557600 * second)]

/-- a number before its unit -/
structure Amount where
  whole : Nat
  numerator : Nat := 0
  denominator : Nat := 1

/-- the largest number that is read, plus one -/
def bound : Nat := Decimal.twoTo 64

/-- a unit is counted in seconds if it is at least as long as `least`, and in nanoseconds if not -/
def grain (least unit : Nat) : Nat := if least ≤ unit then second else 1

/-- adds `count / parts` units, which has to be a whole number of grains; no number of grains, and
no number of nanoseconds beyond full seconds, may reach the bound -/
def plus? (grain unit count parts sum : Nat) : Option Nat :=
  let grains := count * (unit / grain)
  let total := sum + grains / parts * grain
  if bound ≤ grains || grains % parts ≠ 0 || (grain = 1 && bound ≤ sum % second + grains / parts)
    || bound * second ≤ total then none
  else some total

/-- adds an amount of a unit, its whole part first; a nanosecond has no fractions -/
def Amount.addTo? (a : Amount) (unit sum : Nat) : Option Nat :=
  if unit = 1 && a.denominator ≠ 1 then none
  else (plus? (grain second unit) unit a.whole 1 sum).bind
    (plus? (grain (3600 * second) unit) unit a.numerator a.denominator)

/-- what is being read -/
inductive Reading where
  | gap
  | whole (a : Amount)
  | fraction (a : Amount)
  | unit (a : Amount) (letters : List Char)

def digit (n : Nat) (c : Char) : Nat := 10 * n + (c.toNat - '0'.toNat)

def isUnitLetter (c : Char) : Bool := Chars.isAsciiAlpha c || c == 'µ'

/-- adds an amount of the unit whose name is given, its last letter first -/
def add? (sum : Nat) (a : Amount) (letters : List Char) : Option Nat :=
  (units.find? fun u => u.1.contains (String.ofList letters.reverse)).bind fun u =>
    a.addTo? u.2 sum

/-- `sum` is the duration so far -/
def readFrom : Nat → Reading → List Char → Option Nat
  | sum, .gap, [] => some sum
  | sum, .unit a letters, [] => add? sum a letters
  | _, _, [] => none
  | sum, .gap, c :: cs =>
    if Chars.isAsciiDigit c then readFrom sum (.whole ⟨digit 0 c, 0, 1⟩) cs
    else if Chars.isBlank c then readFrom sum .gap cs else none
  | sum, .whole a, c :: cs =>
    if Chars.isAsciiDigit c then
      let n := digit a.whole c
      if n < bound then readFrom sum (.whole { a with whole := n }) cs else none
    else if Chars.isBlank c then readFrom sum (.whole a) cs
    else if isUnitLetter c then readFrom sum (.unit a [c]) cs
    else if c = '.' then readFrom sum (.fraction a) cs else none
  | sum, .fraction a, c :: cs =>
    if Chars.isAsciiDigit c then
      let denominator := 10 * a.denominator
      if denominator < bound then
        readFrom sum (.fraction { a with numerator := digit a.numerator c, denominator }) cs
      else none
    else if Chars.isBlank c then readFrom sum (.fraction a) cs
    else if isUnitLetter c && a.denominator ≠ 1 then readFrom sum (.unit a [c]) cs else none
  | sum, .unit a letters, c :: cs =>
    if isUnitLetter c then readFrom sum (.unit a (c :: letters)) cs
    else if Chars.isBlank c then (add? sum a letters).bind fun sum => readFrom sum .gap cs
    else if Chars.isAsciiDigit c then
      (add? sum a letters).bind fun sum => readFrom sum (.whole ⟨digit 0 c, 0, 1⟩) cs
    else none

/-- a lone zero needs no unit -/
def parse? (s : String) : Option Duration :=
  if s = "0" then some ⟨0⟩
  else if s.toList.all Chars.isBlank then none
  else (readFrom 0 .gap s.toList).map Duration.mk

/-! ## writing -/

def plural (n : Nat) (name : String) : String :=
  toString n ++ name ++ (if 1 < n then "s" else "")

def unitTexts (d : Duration) : List (Nat × String) :=
  let secs := d.nanoseconds / second
  let nanos := d.nanoseconds % second
  let inYear := secs % 31557600
  let inMonth := inYear % 2630016
  let inDay := inMonth % 86400
  [(secs / 31557600, plural (secs / 31557600) "year"),
    (inYear / 2630016, plural (inYear / 2630016) "month"),
    (inMonth / 86400, plural (inMonth / 86400) "day")]
    ++ [(inDay / 3600, "h"), (inDay % 3600 / 60, "m"), (inDay % 60, "s"), (nanos / 1000000, "ms"),
      (nanos / 1000 % 1000, "us"), (nanos % 1000, "ns")].map fun (n, unit) =>
        (n, toString n ++ unit)

def text (d : Duration) : String :=
  if d.isZero then "0s"
  else String.intercalate " " ((d.unitTexts.filter fun u => u.1 ≠ 0).map Prod.snd)

end Duration
end Handoff
