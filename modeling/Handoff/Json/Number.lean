import Handoff.Decimal.Binary
import Handoff.Decimal.Reader
import Handoff.Json.Basic
import Handoff.Text.Chars

/-!
# Numbers in JSON texts

The grammar has no leading zeros and wants digits around the point.  A number without point and
exponent is an integer, if 64 bits hold it.  Any other is a double: as many of its digits as fit 64
bits make a significand, digits behind them only count, and the significand is scaled by a power of
ten.  Both steps round, so a number with more than 15 digits, or with an exponent beyond 22, may
differ in its last bit from the nearest double.

* `NumberText.scan?`     a number at the head of a text, and the rest;
* `NumberText.value?`    its value, unless it is too large to be finite.
-/

namespace Handoff.Json

/-- the parts of a number as they are written -/
structure NumberText where
  negative : Bool
  whole : List Char
  fraction : List Char
  /-- whether there is a point or an exponent -/
  isReal : Bool
  exponent : Int
deriving Repr

namespace NumberText

/-- an exponent, if its mark comes first, and the rest -/
def scanExponent? (cs : List Char) : Option (Option Int × List Char) :=
  match cs with
  | [] => some (none, [])
  | c :: r =>
    if c == 'e' || c == 'E' then
      let (negative, r) := Decimal.splitSign r
      let digits := r.takeWhile Chars.isAsciiDigit
      let n : Int := Decimal.natOfDigits digits
      if digits.isEmpty then none
      else some (some (if negative then -n else n), r.dropWhile Chars.isAsciiDigit)
    else some (none, cs)

def scan? (cs : List Char) : Option (NumberText × List Char) := do
  let (negative, cs) := match cs with
    | '-' :: r => (true, r)
    | r => (false, r)
  let whole := cs.takeWhile Chars.isAsciiDigit
  let cs := cs.dropWhile Chars.isAsciiDigit
  if whole.isEmpty || (whole.length > 1 && whole.head? == some '0') then none
  let (fraction, cs, pointed) := match cs with
    | '.' :: r => (r.takeWhile Chars.isAsciiDigit, r.dropWhile Chars.isAsciiDigit, true)
    | r => ([], r, false)
  if pointed && fraction.isEmpty then none
  let (exponent, cs) ← scanExponent? cs
  return (⟨negative, whole, fraction, pointed || exponent.isSome, exponent.getD 0⟩, cs)

/-- puts digits behind a number as long as 64 bits hold it, and counts those that are left -/
def keepDigits (n : Nat) : List Char → Nat × Nat
  | [] => (n, 0)
  | c :: cs =>
    let longer := 10 * n + Chars.hexValue c
    if longer < Decimal.twoTo 64 then keepDigits longer cs else (n, cs.length + 1)

def powerOfTen (k : Nat) : Float := Float.ofScientific 1 false k

/-- the exponent of the largest power of ten that is finite -/
def maxPower : Nat := 308

/-- a significand times a power of ten, `none` if that is too large -/
def scaled? (significand : Nat) (exponent : Int) : Option Float :=
  let x := Float.ofNat significand
  let down := (-exponent).toNat
  if significand = 0 then some 0.0
  else if maxPower < exponent then none
  else if 0 ≤ exponent then
    let y := x * powerOfTen exponent.toNat
    if y.isInf then none else some y
  else if down ≤ maxPower then some (x / powerOfTen down)
  else if down ≤ 2 * maxPower then some (x / powerOfTen maxPower / powerOfTen (down - maxPower))
  else some 0.0

/-- the value as a double -/
def double? (t : NumberText) : Option Float :=
  let (n, beyond) := keepDigits 0 t.whole
  let (n, dropped) := keepDigits n t.fraction
  let kept := t.fraction.length - dropped
  (scaled? n (t.exponent + beyond - kept)).map fun x => if t.negative then -x else x

def value? (t : NumberText) : Option JsonNumber :=
  let n := Decimal.natOfDigits t.whole
  let fits := if t.negative then 0 < n && n ≤ Decimal.twoTo 63 else n < Decimal.twoTo 64
  if !t.isReal && fits then some (.int (if t.negative then -n else n))
  else t.double?.map .real

end NumberText
end Handoff.Json
