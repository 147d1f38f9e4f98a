import Handoff.Utility.Color
import Handoff.Utility.Layout

/-!
# Surface and type utilities

Classes for backgrounds, borders, corners, transforms and effects, and for typography.  Values on
a named scale are matched after rounding to whole pixels.
-/

namespace Handoff.Utility

/-- an arbitrary property, for what has no utility -/
def bracketProperty (property value : String) : String :=
  "[" ++ property ++ ":" ++ escapeArbitrary value ++ "]"

/-- a rounded length as an integer; what is not a number counts as zero -/
def wholePx (px : Float) : Int := px.round.toInt64.toInt

/-! ## backgrounds -/

def background (value : String) : String :=
  if Text.contains "gradient(" value || Text.startsWith "url(" value then arbitrary "bg" value
  else colorClass "bg" value

def backgroundSize (value : String) : String :=
  if ["cover", "contain", "auto"].contains value then "bg-" ++ value
  else "bg-[length:" ++ escapeArbitrary value ++ "]"

/-! ## borders and corners -/

def borderWidth (utility value : String) : String :=
  match parsePx? value with
  | none => arbitrary utility value
  | some px =>
    let w := px.round
    if w == 1.0 then utility
    else if w == 0.0 || w == 2.0 || w == 4.0 || w == 8.0 then utility ++ "-" ++ Decimal.trimmed w
    else bracketPx utility w

def borderStyle : String → String :=
  named "border-" ["solid", "dashed", "dotted", "double", "none"]

/-- the first two blank-separated parts and the rest -/
def threeParts (value : String) : String × Option String × Option String :=
  match Text.cut? ' ' value with
  | none => (value, none, none)
  | some (a, rest) =>
    match Text.cut? ' ' rest with
    | none => (a, some rest, none)
    | some (b, c) => (a, some b, some c)

/-- width, style and color -/
def border (value : String) : String :=
  if ["none", "0", "0px"].contains value then "border-0"
  else
    let (width, style, color) := threeParts value
    let color := Text.trim (color.getD "")
    let classes := [borderWidth "border" width, borderStyle (style.getD "solid"),
      if color = "" then "" else colorClass "border" color]
    Text.joinWith " " (classes.filter (· ≠ ""))

def outline (value : String) : String :=
  if value = "none" then "outline-none"
  else
    let (width, _, color) := threeParts value
    let color := Text.trim (color.getD "")
    let width := match parsePx? width with
      | some px => "outline-" ++ Decimal.trimmed px.round
      | none => ""
    let classes := ["outline", width, if color = "" then "" else colorClass "outline" color]
    Text.joinWith " " (classes.filter (· ≠ ""))

def radius (utility value : String) : String :=
  if value = "50%" then utility ++ "-full"
  else
    match parsePx? value with
    | none => arbitrary utility value
    | some px =>
      let n := wholePx px
      match [((0 : Int), "-none"), (2, "-sm"), (4, ""), (6, "-md"), (8, "-lg"), (12, "-xl"),
          (16, "-2xl"), (24, "-3xl")].lookup n with
      | some word => utility ++ word
      | none => if 9999 ≤ n then utility ++ "-full" else bracketPx utility px.round

/-! ## transforms and effects -/

def transform (value : String) : String :=
  let degrees := (Text.dropPrefix? "rotate(" value).bind fun rest =>
    (Text.dropSuffix? "deg)" rest).bind fun d => Decimal.parse? (Text.trim d)
  match degrees with
  | none => bracketProperty "transform" value
  | some d =>
    let n := wholePx d
    if n = 0 then ""
    else if [1, 2, 3, 6, 12, 45, 90, 180].contains n.natAbs then
      (if n < 0 then "-" else "") ++ "rotate-" ++ toString n.natAbs
    else "rotate-[" ++ Decimal.trimmed d.round ++ "deg]"

/-- the nearest quarter of the opacity scale -/
def opacity (value : String) : String :=
  match Decimal.parse? value with
  | none => arbitrary "opacity" value
  | some x =>
    if x <= 0.125 then "opacity-0"
    else if x <= 0.375 then "opacity-25"
    else if x <= 0.625 then "opacity-50"
    else if x <= 0.875 then "opacity-75"
    else "opacity-100"

/-- the step of the blur scale a radius falls on -/
def blurStep (radius : Float) : String :=
  if radius == 0.0 then "-none"
  else if radius <= 4.0 then "-sm"
  else if radius <= 8.0 then ""
  else if radius <= 12.0 then "-md"
  else if radius <= 16.0 then "-lg"
  else if radius <= 24.0 then "-xl"
  else "-3xl"

/-- a lone blur has a utility, every other filter is written out -/
def blur (utility property value : String) : String :=
  let radius := (Text.dropPrefix? "blur(" value).bind fun rest =>
    (Text.dropSuffix? ")" rest).bind parsePx?
  match radius with
  | some r => utility ++ blurStep r
  | none => bracketProperty property value

def mixBlend : String → String := named "mix-blend-" [
  "normal", "multiply", "screen", "overlay", "darken", "lighten", "color-dodge", "color-burn",
  "hard-light", "soft-light", "difference", "exclusion", "hue", "saturation", "color",
  "luminosity", "plus-lighter"]

def boxShadow : String → String := keywordOr [("none", "shadow-none")] "shadow"

/-! ## typography -/

def isQuote (c : Char) : Bool := c == '\'' || c == '"'

/-- the first family of a list, without quotes -/
def fontFamily (value : String) : String :=
  let first := (Text.splitOn ',' value).headD ""
  let family := Text.trimBy isQuote (Text.trim first)
  if family = "" then "" else "font-['" ++ Text.replaceChar ' ' "_" family ++ "']"

def fontWeight : String → String := keywordOr [
  ("100", "font-thin"), ("200", "font-extralight"), ("300", "font-light"),
  ("400", "font-normal"), ("500", "font-medium"), ("600", "font-semibold"),
  ("700", "font-bold"), ("800", "font-extrabold"), ("900", "font-black")] "font"

def fontStyle : String → String := keyword [("italic", "italic"), ("normal", "not-italic")]

def fontSizes : List (Int × String) := [
  (12, "xs"), (14, "sm"), (16, "base"), (18, "lg"), (20, "xl"), (24, "2xl"), (30, "3xl"),
  (36, "4xl"), (48, "5xl"), (60, "6xl"), (72, "7xl"), (96, "8xl"), (128, "9xl")]

def fontSize (value : String) : String :=
  match parsePx? value with
  | none => arbitrary "text" value
  | some px =>
    match fontSizes.lookup (wholePx px) with
    | some name => "text-" ++ name
    | none => bracketPx "text" px.round

def lineHeights : List (Int × String) := [
  (12, "3"), (16, "4"), (20, "5"), (24, "6"), (28, "7"), (32, "8"), (36, "9"), (40, "10")]

def lineHeight (value : String) : String :=
  match parsePx? value with
  | some px =>
    match lineHeights.lookup (wholePx px) with
    | some token => "leading-" ++ token
    | none => bracketPx "leading" px.round
  | none => keywordOr [
      ("1", "leading-none"), ("1.25", "leading-tight"), ("1.38", "leading-snug"),
      ("1.375", "leading-snug"), ("1.5", "leading-normal"), ("1.63", "leading-relaxed"),
      ("1.625", "leading-relaxed"), ("2", "leading-loose")] "leading" value

def textTransform : String → String := keyword [
  ("uppercase", "uppercase"), ("lowercase", "lowercase"), ("capitalize", "capitalize"),
  ("none", "normal-case")]

def textDecoration : String → String := keyword [
  ("underline", "underline"), ("line-through", "line-through"), ("none", "no-underline")]

def textAlign : String → String := named "text-" ["left", "center", "right", "justify"]

def verticalAlign : String → String := named "align-" ["baseline", "text-top", "text-bottom"]

end Handoff.Utility
