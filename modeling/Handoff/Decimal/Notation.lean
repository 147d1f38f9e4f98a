import Handoff.Decimal.Binary

/-!
# Numbers as text

Every double owns an interval of reals that round to it.  `shortest` looks on the decimal grids of
1, 2, … 17 digits for a point inside that interval; the first grid with a hit wins, and of two hits
on it the nearer one.  On each grid only the two neighbours of the value are tested: if any point
of a grid lies in the interval, so does one of these.  There are four ways to write a double, all of
them exact in their rounding:

* `fixed places x`   a set number of decimal places, ties to even, a negative zero keeps its sign;
* `plain x`          the shortest digits that read back, always positional;
* `scientific x`     the shortest digits, positional from `1e-5` up to below `1e16` and with an
                     exponent outside, always with a point or an exponent;
* `trimmed x`        at most two places, no trailing zeros: the form used in styles.
-/

namespace Handoff.Decimal

/-! ## the shortest decimal that reads back -/

/-- `digits * 10 ^ exponent` -/
structure Digits where
  digits : Nat
  exponent : Int
deriving Repr, DecidableEq

/-- where the value is half way between two candidates -/
inductive Tie where
  | up
  | even
deriving Repr, DecidableEq

/-- the number of decimal digits of `n`, with one digit for zero -/
def digitCount (n : Nat) : Nat := (Nat.toDigits 10 n).length

/-- removes factors of ten from the digits -/
def Digits.trim (d : Digits) : Digits :=
  let zeros := ((Nat.toDigits 10 d.digits).reverse.takeWhile (· = '0')).length
  if d.digits = 0 then ⟨0, 0⟩ else ⟨d.digits / tenTo zeros, d.exponent + zeros⟩

namespace Binary

/-- the exponent `k` with `10 ^ (k - 1) ≤ value < 10 ^ k`, for a value above zero -/
def magnitude (b : Binary) : Int :=
  let k : Int := (digitCount b.numerator : Int) - digitCount b.denominator
  if b.denominator * tenTo k.toNat ≤ b.numerator * tenTo (-k).toNat then k + 1 else k

/-- the best point of the grid `10 ^ e` inside the interval that rounds to `b` -/
def onGrid? (tie : Tie) (b : Binary) (e : Int) : Option Digits :=
  let scale := 4 * tenTo (-e).toNat
  let den := b.denominator * tenTo e.toNat
  let value := b.numerator * scale
  let unit := value / b.mantissa
  let low := value - (if b.narrowBelow then unit / 4 else unit / 2)
  let high := value + unit / 2
  let inside : Nat → Bool := fun n =>
    let v := 4 * den * n
    if b.mantissa % 2 = 0 then low ≤ v && v ≤ high else low < v && v < high
  let below := value / (4 * den)
  let above := below + 1
  let toBelow := value - 4 * den * below
  let toAbove := 4 * den * above - value
  let preferAbove : Bool := toAbove < toBelow || (toAbove == toBelow &&
    (match tie with | .up => true | .even => below % 2 = 1))
  if inside below && inside above then some ⟨if preferAbove then above else below, e⟩
  else if inside below then some ⟨below, e⟩
  else if inside above then some ⟨above, e⟩
  else none

/-- the shortest digits of the magnitude of `b` -/
def shortest (tie : Tie) (b : Binary) : Digits :=
  if b.mantissa = 0 then ⟨0, 0⟩
  else
    let k := b.magnitude
    match (List.range 17).findSome? fun n : Nat => b.onGrid? tie (k - 1 - n) with
    | some d => d.trim
    | none => ⟨0, 0⟩

end Binary

/-! ## notations -/

def zeros (n : Nat) : String := String.ofList (List.replicate n '0')

def sign (negative : Bool) : String := if negative then "-" else ""

/-- the texts of the values that have no digits -/
def nonFinite (x : Float) : String :=
  if x.isNaN then "NaN" else if x < 0 then "-inf" else "inf"

/-- `n` written with at least `width` digits -/
def padLeft (width n : Nat) : String :=
  let s := toString n
  zeros (width - s.length) ++ s

/-- `n / 10 ^ places` with exactly `places` digits after the point -/
def withPlaces (places n : Nat) : String :=
  if places = 0 then toString n
  else toString (n / tenTo places) ++ "." ++ padLeft places (n % tenTo places)

def fixed (places : Nat) (x : Float) : String :=
  match Binary.ofFloat? x with
  | none => nonFinite x
  | some b =>
    sign b.negative ++ withPlaces places (roundDiv (b.numerator * tenTo places) b.denominator)

/-- the digits written positionally, without a point where none is needed -/
def Digits.positional (d : Digits) : String :=
  if 0 ≤ d.exponent then
    if d.digits = 0 then "0" else toString d.digits ++ zeros d.exponent.toNat
  else withPlaces (-d.exponent).toNat d.digits

def plain (x : Float) : String :=
  match Binary.ofFloat? x with
  | none => nonFinite x
  | some b => sign b.negative ++ (b.shortest .up).positional

/-- one digit, a point, the other digits -/
def Digits.leading (d : Digits) : String :=
  match (toString d.digits).toList with
  | [] => ""
  | [c] => String.ofList [c]
  | c :: cs => String.ofList (c :: '.' :: cs)

def scientific (x : Float) : String :=
  match Binary.ofFloat? x with
  | none => nonFinite x
  | some b =>
    let d := b.shortest .even
    let k := d.exponent + digitCount d.digits
    sign b.negative ++
      (if d.digits = 0 then "0.0"
       else if 0 ≤ d.exponent ∧ k ≤ 16 then d.positional ++ ".0"
       else if -5 < k ∧ k ≤ 16 then d.positional
       else d.leading ++ "e" ++ toString (k - 1))

/-- removes zeros, then a point, from the end -/
def dropTrailingZeros (s : List Char) : List Char :=
  ((s.reverse.dropWhile (· = '0')).dropWhile (· = '.')).reverse

def trimmed (x : Float) : String :=
  if x.isNaN || x.isInf then "0"
  else
    let rounded := (x * 100.0).round / 100.0
    if rounded == 0.0 then "0"
    else String.ofList (dropTrailingZeros (fixed 2 rounded).toList)

end Handoff.Decimal
