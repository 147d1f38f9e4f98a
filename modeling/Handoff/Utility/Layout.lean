import Handoff.Decimal.Binary
import Handoff.Utility.Scale

/-!
# Layout utilities

Classes for display, flex and grid containers, the box, placement and sizes.  Each function takes
the value of one declaration; a value without a utility gives the empty text.
-/

namespace Handoff.Utility

/-- the class a keyword stands for, the empty text when the keyword is unknown -/
def keyword (table : List (String × String)) (value : String) : String :=
  (table.lookup value).getD ""

/-- the class a keyword stands for, a bracketed value when the keyword is unknown -/
def keywordOr (table : List (String × String)) (utility value : String) : String :=
  (table.lookup value).getD (arbitrary utility value)

/-- keywords that are written after a common beginning -/
def named (lead : String) (words : List String) (value : String) : String :=
  if words.contains value then lead ++ value else ""

def display : String → String := keyword [
  ("flex", "flex"), ("inline-flex", "inline-flex"), ("block", "block"), ("inline", "inline"),
  ("inline-block", "inline-block"), ("grid", "grid"), ("inline-grid", "inline-grid"),
  ("none", "hidden"), ("hidden", "hidden"), ("contents", "contents")]

def flexDirection : String → String := keyword [
  ("row", "flex-row"), ("column", "flex-col"), ("row-reverse", "flex-row-reverse"),
  ("column-reverse", "flex-col-reverse")]

def flexWrap : String → String := keyword [
  ("wrap", "flex-wrap"), ("nowrap", "flex-nowrap"), ("wrap-reverse", "flex-wrap-reverse")]

def flexGrow : String → String := keywordOr [("0", "grow-0"), ("1", "grow")] "grow"

def flexShrink : String → String := keywordOr [("0", "shrink-0"), ("1", "shrink")] "shrink"

def flex : String → String := keywordOr [
  ("1", "flex-1"), ("1 1 0%", "flex-1"), ("auto", "flex-auto"), ("1 1 auto", "flex-auto"),
  ("none", "flex-none"), ("0 0 auto", "flex-none")] "flex"

def alignSelf : String → String := keyword [
  ("stretch", "self-stretch"), ("flex-start", "self-start"), ("start", "self-start"),
  ("flex-end", "self-end"), ("end", "self-end"), ("center", "self-center"),
  ("baseline", "self-baseline"), ("auto", "self-auto")]

def justifyContent : String → String := keyword [
  ("flex-start", "justify-start"), ("start", "justify-start"), ("center", "justify-center"),
  ("flex-end", "justify-end"), ("end", "justify-end"), ("space-between", "justify-between"),
  ("space-around", "justify-around"), ("space-evenly", "justify-evenly")]

def alignItems : String → String := keyword [
  ("flex-start", "items-start"), ("start", "items-start"), ("center", "items-center"),
  ("flex-end", "items-end"), ("end", "items-end"), ("baseline", "items-baseline"),
  ("stretch", "items-stretch")]

def alignContent : String → String := keyword [
  ("flex-start", "content-start"), ("start", "content-start"), ("center", "content-center"),
  ("flex-end", "content-end"), ("end", "content-end"), ("space-between", "content-between"),
  ("space-around", "content-around"), ("stretch", "content-stretch")]

def placeItems : String → String := named "place-items-" ["start", "center", "end", "stretch"]

def position : String → String := named "" ["static", "relative", "absolute", "fixed", "sticky"]

/-! ## grids -/

/-- a number of equal columns or rows has a utility of its own -/
def gridTemplate (utility value : String) : String :=
  let count := (Text.dropPrefix? "repeat(" value).bind fun rest =>
    (Text.dropSuffix? ", minmax(0, 1fr))" rest).bind fun n =>
      Decimal.natBelow? (Decimal.twoTo 32) (Text.trim n)
  match count with
  | some n => utility ++ "-" ++ toString n
  | none => if value = "none" then utility ++ "-none" else arbitrary utility value

def isLineNumber (value : String) : Bool := value ≠ "" && Text.all Chars.isAsciiDigit value

/-- the two start lines of a grid area -/
def gridArea (value : String) : String :=
  match (Text.splitOn '/' value).map Text.trim with
  | [row, column] =>
    if isLineNumber row && isLineNumber column then
      "row-start-" ++ row ++ " col-start-" ++ column
    else "[grid-area:" ++ escapeArbitrary value ++ "]"
  | _ => "[grid-area:" ++ escapeArbitrary value ++ "]"

/-- a start line with a span, or a span alone -/
def gridSpan (axis value : String) : String :=
  match (Text.splitOn '/' value).map Text.trim with
  | [start, span] =>
    match Text.dropPrefix? "span " span with
    | some count =>
      if isLineNumber start then
        axis ++ "-start-" ++ start ++ " " ++ axis ++ "-span-" ++ Text.trim count
      else arbitrary axis value
    | none => arbitrary axis value
  | [span] =>
    match Text.dropPrefix? "span " span with
    | some count => axis ++ "-span-" ++ Text.trim count
    | none => arbitrary axis value
  | _ => arbitrary axis value

/-! ## placement -/

def inset (side value : String) : String :=
  if value = "50%" then side ++ "-1/2"
  else if value = "100%" then side ++ "-full"
  else scaleClass side value

def zIndex (value : String) : String :=
  if ["0", "10", "20", "30", "40", "50", "auto"].contains value then "z-" ++ value
  else "z-[" ++ value ++ "]"

def overflow (utility : String) : String → String :=
  named (utility ++ "-") ["hidden", "auto", "scroll", "clip"]

def translateAxis (axis value : String) : String :=
  match value with
  | "0" | "0px" | "0%" => ""
  | "-50%" => "-translate-" ++ axis ++ "-1/2"
  | "50%" => "translate-" ++ axis ++ "-1/2"
  | "-100%" => "-translate-" ++ axis ++ "-full"
  | "100%" => "translate-" ++ axis ++ "-full"
  | _ => arbitrary ("translate-" ++ axis) value

/-- a class for each axis that moves -/
def translate (value : String) : String :=
  let (x, y) := match Text.words value with
    | [] => ("0", "0")
    | [x] => (x, "0")
    | x :: y :: _ => (x, y)
  Text.joinWith " " ([translateAxis "x" x, translateAxis "y" y].filter (· ≠ ""))

/-! ## boxes and sizes -/

/-- the fractions and intrinsic sizes that have a utility -/
def sizeWords : List (String × String) := [
  ("100%", "full"), ("50%", "1/2"), ("25%", "1/4"), ("75%", "3/4"), ("fit-content", "fit"),
  ("max-content", "max"), ("min-content", "min")]

def size (utility value : String) : String :=
  match sizeWords.lookup value with
  | some word => utility ++ "-" ++ word
  | none =>
    if utility = "w" ∧ value = "100vw" then "w-screen"
    else if utility = "h" ∧ value = "100vh" then "h-screen"
    else scaleClass utility value

/-- padding or margin with one to four values -/
def boxSides (utility value : String) : String :=
  let side := fun suffix v => scaleClass (utility ++ suffix) v
  Text.joinWith " " <| match Text.words value with
    | [a] => [scaleClass utility a]
    | [v, h] => [side "y" v, side "x" h]
    | [t, h, b] => [side "t" t, side "x" h, side "b" b]
    | [t, r, b, l] => [side "t" t, side "r" r, side "b" b, side "l" l]
    | _ => [arbitrary utility value]

/-- a gap is never negative: an overlap is carried by margins of the children -/
def gap (utility value : String) : String :=
  match parsePx? value with
  | some px => if px < 0.0 then "" else scaleClass utility value
  | none => scaleClass utility value

def ratio? (value : String) : Option Float :=
  match Text.cut? '/' value with
  | some (w, h) => do
    let w ← Decimal.parse? (Text.trim w)
    let h ← Decimal.parse? (Text.trim h)
    if h == 0.0 then none else return w / h
  | none => Decimal.parse? value

def aspectRatio (value : String) : String :=
  match ratio? value with
  | some r =>
    if (r - 1.0).abs < 0.001 then "aspect-square"
    else if (r - 16.0 / 9.0).abs < 0.01 then "aspect-video"
    else arbitrary "aspect" value
  | none => arbitrary "aspect" value

end Handoff.Utility
