import Handoff.Decimal.Notation
import Handoff.Decimal.Reader
import Handoff.Text.Basic

/-!
# The spacing scale

Utility classes name lengths by tokens of a fixed scale, or write them out between brackets.

* `tokenForPx?`, `pxForToken?`   the scale, read in both directions;
* `nearestToken?`                the closest scale point within a relative tolerance;
* `parsePx?`                     a pixel length as CSS writes it;
* `arbitrary`, `scaleClass`      a class with a bracketed value, or with a token where one fits.
-/

namespace Handoff.Utility

/-- pixels and token of every scale point; 72 pixels has none -/
def spacingScale : List (Nat × String) := [
  (0, "0"), (1, "px"), (2, "0.5"), (4, "1"), (6, "1.5"), (8, "2"), (10, "2.5"), (12, "3"),
  (14, "3.5"), (16, "4"), (20, "5"), (24, "6"), (28, "7"), (32, "8"), (36, "9"), (40, "10"),
  (44, "11"), (48, "12"), (56, "14"), (64, "16"), (80, "20"), (96, "24"), (112, "28"),
  (128, "32"), (144, "36"), (160, "40"), (176, "44"), (192, "48"), (208, "52"), (224, "56"),
  (240, "60"), (256, "64"), (288, "72"), (320, "80"), (384, "96")]

def defaultTolerance : Float := 0.05

/-- the token of a length that is exactly on the scale -/
def tokenForPx? (px : Float) : Option String :=
  (spacingScale.find? fun e => Float.ofNat e.1 == px).map Prod.snd

def scalePx? (token : String) : Option Nat :=
  (spacingScale.find? fun e => e.2 == token).map Prod.fst

def pxForToken? (token : String) : Option Float := (scalePx? token).map Float.ofNat

/-- of two scale points the one nearer to `px`, the first when they are equally near -/
def nearer (px : Float) (a b : Nat × String) : Nat × String :=
  if (px - Float.ofNat b.1).abs < (px - Float.ofNat a.1).abs then b else a

/-- the closest scale point whose distance, relative to `px`, is within the tolerance -/
def nearestToken? (px tolerance : Float) : Option String :=
  if px <= 0.0 then tokenForPx? px
  else
    match spacingScale.filter fun e => (px - Float.ofNat e.1).abs / px <= tolerance with
    | [] => none
    | e :: es => some (es.foldl (nearer px) e).2

/-- pixels of a length such as 16px; a bare zero counts, nothing else does -/
def parsePx? (value : String) : Option Float :=
  let value := Text.trim value
  if value = "0" then some 0.0
  else (Text.dropSuffix? "px" value).bind fun n => Decimal.parse? (Text.trim n)

/-- a value as it stands between brackets: no blanks, words joined by underscores -/
def escapeArbitrary (value : String) : String :=
  Text.joinWith "_" (Text.words (Text.replaceAll ", " "," (Text.trim value)))

def arbitrary (utility value : String) : String := utility ++ "-[" ++ escapeArbitrary value ++ "]"

/-- a length written out in pixels between brackets -/
def bracketPx (utility : String) (px : Float) : String :=
  utility ++ "-[" ++ Decimal.trimmed px ++ "px]"

/-- a spacing class for a CSS value: on the scale after rounding to whole pixels if possible -/
def scaleClass (utility value : String) : String :=
  let value := Text.trim value
  match parsePx? value with
  | none => if value = "auto" then utility ++ "-auto" else arbitrary utility value
  | some px =>
    let rounded := px.round
    if rounded < 0.0 then
      match tokenForPx? (-rounded) with
      | some token => "-" ++ utility ++ "-" ++ token
      | none => bracketPx utility rounded
    else
      match tokenForPx? rounded with
      | some token => utility ++ "-" ++ token
      | none => bracketPx utility rounded

/-- the pixels of a class of the form utility-[Npx] -/
def arbitraryPx? (cls utility : String) : Option Float := do
  let rest ← Text.dropPrefix? utility cls
  let rest ← Text.dropPrefix? "-[" rest
  Decimal.parse? (← Text.dropSuffix? "px]" rest)

end Handoff.Utility
