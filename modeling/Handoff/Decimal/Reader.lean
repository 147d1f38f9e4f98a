/-!
# Reading decimal numbers

`scan` splits a text into the digits of a decimal number and whatever follows; `ofScan` turns the
digits into the nearest double.  `parse?` reads a whole text: an optional sign, digits with at most
one point, an optional exponent, or one of the words for infinity and NaN in any case.
-/

namespace Handoff.Decimal

/-- the value of a digit string read in base ten -/
def natOfDigits (cs : List Char) : Nat := cs.foldl (fun n c => 10 * n + (c.toNat - '0'.toNat)) 0

/-- digits before and after the point, and the exponent -/
structure Scan where
  whole : List Char
  fraction : List Char
  exponent : Int
deriving Repr

/-- the nearest double to the scanned number; what is too large becomes infinite -/
def ofScan (s : Scan) : Float :=
  let m := natOfDigits (s.whole ++ s.fraction)
  let e := s.exponent - s.fraction.length
  let top : Int := (Nat.toDigits 10 m).length + e
  if m = 0 ∨ top < -400 then 0.0
  else if 400 < top then 1.0 / 0.0
  else if 0 ≤ e then Float.ofScientific m false e.toNat
  else Float.ofScientific m true (-e).toNat

/-- splits off a sign; `true` for minus -/
def splitSign : List Char → Bool × List Char
  | '-' :: cs => (true, cs)
  | '+' :: cs => (false, cs)
  | cs => (false, cs)

/-- the exponent part of a number, `none` if a mark is there without digits or junk follows -/
def exponent? : List Char → Option Int
  | [] => some 0
  | c :: cs =>
    if c = 'e' ∨ c = 'E' then
      let (negative, ds) := splitSign cs
      if ds.isEmpty ∨ ¬ ds.all Char.isDigit then none
      else
        let n : Int := natOfDigits ds
        some (if negative then -n else n)
    else none

/-- an unsigned decimal number: digits on at least one side of the point -/
def unsigned? (cs : List Char) : Option Scan := do
  let whole := cs.takeWhile Char.isDigit
  let rest := cs.dropWhile Char.isDigit
  let (fraction, rest) := match rest with
    | '.' :: r => (r.takeWhile Char.isDigit, r.dropWhile Char.isDigit)
    | r => ([], r)
  if whole.isEmpty && fraction.isEmpty then none
  else return ⟨whole, fraction, ← exponent? rest⟩

/-- lower case on the ASCII letters -/
def asciiLower (cs : List Char) : List Char := cs.map Char.toLower

def parseChars? (cs : List Char) : Option Float :=
  let (negative, body) := splitSign cs
  let signed := fun x : Float => if negative then -x else x
  let word := String.ofList (asciiLower body)
  if word = "inf" ∨ word = "infinity" then some (signed (1.0 / 0.0))
  else if word = "nan" then some (0.0 / 0.0)
  else (unsigned? body).map fun s => signed (ofScan s)

def parse? (s : String) : Option Float := parseChars? s.toList

/-- a natural number below `bound`, with an optional plus -/
def natBelow? (bound : Nat) (s : String) : Option Nat :=
  let cs := match s.toList with
    | '+' :: r => r
    | r => r
  if cs.isEmpty ∨ ¬ cs.all Char.isDigit then none
  else
    let n := natOfDigits cs
    if n < bound then some n else none

end Handoff.Decimal
