import Handoff.Styled.Node
import Handoff.Text.Basic

/-!
# Typography

The styles of a text; its color is its fill.
-/

namespace Handoff.Styling

def fontWeights : List (String × Float) := [
  ("thin", 100.0), ("hairline", 100.0), ("extralight", 200.0), ("ultralight", 200.0),
  ("light", 300.0), ("regular", 400.0), ("normal", 400.0), ("", 400.0), ("medium", 500.0),
  ("semibold", 600.0), ("demibold", 600.0), ("bold", 700.0), ("extrabold", 800.0),
  ("ultrabold", 800.0), ("black", 900.0), ("heavy", 900.0)]

/-- the weight that the name of a style says: Semi Bold Italic is 600 -/
def weightOfStyle? (name : String) : Option Float :=
  let bare := name.toList.filter fun c => !Chars.isBlank c && c ≠ '-'
  let upright := Chars.dropSuffixes "italic".toList (Chars.lowercase bare)
  fontWeights.lookup (String.ofList upright)

def fontWeight? (s : TypeStyle) : Option Float :=
  s.fontWeight.orElse fun _ => s.fontStyle.bind weightOfStyle?

/-- a line that would be higher than the box of the text has no height of its own -/
def lineHeight? (s : TypeStyle) (boxHeight : Float) : Option String :=
  match s.lineHeightPx with
  | none => none
  | some pixels =>
    if 0.0 < boxHeight && boxHeight < pixels then none
    else match s.lineHeightUnit, s.lineHeightPercentFontSize with
      | some .fontSizePercent, some percent => some (Decimal.trimmed (percent / 100.0))
      | _, _ => some (px pixels)

def textAlign? : TextAlign → Option String
  | .left => some "left"
  | .center => some "center"
  | .right => some "right"
  | .justified => some "justify"
  | .unknown => none

def verticalAlign? : TextAlignVertical → Option String
  | .top => some "top"
  | .center => some "middle"
  | .bottom => some "bottom"
  | .unknown => none

def textTransform? : TextCase → Option String
  | .upper => some "uppercase"
  | .lower => some "lowercase"
  | .title => some "capitalize"
  | .asWritten | .smallCaps | .smallCapsForced | .unknown => none

def fontVariant? : TextCase → Option String
  | .smallCaps | .smallCapsForced => some "small-caps"
  | .asWritten | .upper | .lower | .title | .unknown => none

def textDecoration? : TextDecoration → Option String
  | .underline => some "underline"
  | .strikethrough => some "line-through"
  | .none | .unknown => none

def weight (s : TypeStyle) : List Declaration :=
  match fontWeight? s with
  | some w => [("font-weight", .num w)]
  | none => []

def typography (n : NodeData) : List Declaration :=
  match n.typeStyle? with
  | none => []
  | some s =>
    declare? "font-family" s.fontFamily
      ++ weight s
      ++ declareIf s.italic "font-style" "italic"
      ++ declare? "font-size" (s.fontSize.map px)
      ++ declare? "line-height" (lineHeight? s n.height)
      ++ declareIf (s.letterSpacing != 0.0) "letter-spacing" (px s.letterSpacing)
      ++ declare? "text-align" (s.textAlign.bind textAlign?)
      ++ declare? "vertical-align" (s.textAlignVertical.bind verticalAlign?)
      ++ declare? "text-transform" (s.textCase.bind textTransform?)
      ++ declare? "font-variant" (s.textCase.bind fontVariant?)
      ++ declare? "text-decoration" (s.textDecoration.bind textDecoration?)
      ++ declareIf (s.paragraphIndent != 0.0) "text-indent" (px s.paragraphIndent)

end Handoff.Styling
