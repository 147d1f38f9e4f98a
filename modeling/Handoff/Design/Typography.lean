/-!
# Blending and typography
-/

namespace Handoff

/-- names of blend modes; the first two and unknown ones mean no blending of its own -/
inductive BlendMode where
  | passThrough
  | normal
  | darken
  | multiply
  | linearBurn
  | colorBurn
  | lighten
  | screen
  | linearDodge
  | colorDodge
  | overlay
  | softLight
  | hardLight
  | difference
  | exclusion
  | hue
  | saturation
  | color
  | luminosity
  | unknown
deriving DecidableEq, Repr, Inhabited

namespace BlendMode

def names : List (String × BlendMode) := [
  ("PASS_THROUGH", .passThrough), ("NORMAL", .normal), ("DARKEN", .darken),
  ("MULTIPLY", .multiply), ("LINEAR_BURN", .linearBurn), ("COLOR_BURN", .colorBurn),
  ("LIGHTEN", .lighten), ("SCREEN", .screen), ("LINEAR_DODGE", .linearDodge),
  ("COLOR_DODGE", .colorDodge), ("OVERLAY", .overlay), ("SOFT_LIGHT", .softLight),
  ("HARD_LIGHT", .hardLight), ("DIFFERENCE", .difference), ("EXCLUSION", .exclusion),
  ("HUE", .hue), ("SATURATION", .saturation), ("COLOR", .color), ("LUMINOSITY", .luminosity)]

def name : BlendMode → String
  | .passThrough => "PASS_THROUGH"
  | .normal => "NORMAL"
  | .darken => "DARKEN"
  | .multiply => "MULTIPLY"
  | .linearBurn => "LINEAR_BURN"
  | .colorBurn => "COLOR_BURN"
  | .lighten => "LIGHTEN"
  | .screen => "SCREEN"
  | .linearDodge => "LINEAR_DODGE"
  | .colorDodge => "COLOR_DODGE"
  | .overlay => "OVERLAY"
  | .softLight => "SOFT_LIGHT"
  | .hardLight => "HARD_LIGHT"
  | .difference => "DIFFERENCE"
  | .exclusion => "EXCLUSION"
  | .hue => "HUE"
  | .saturation => "SATURATION"
  | .color => "COLOR"
  | .luminosity => "LUMINOSITY"
  | .unknown => "UNKNOWN"

/-- the keyword of CSS, where the mode is not its default -/
def css? : BlendMode → Option String
  | .passThrough | .normal | .unknown => none
  | .darken => some "darken"
  | .multiply => some "multiply"
  | .linearBurn | .colorBurn => some "color-burn"
  | .lighten => some "lighten"
  | .screen => some "screen"
  | .linearDodge | .colorDodge => some "color-dodge"
  | .overlay => some "overlay"
  | .softLight => some "soft-light"
  | .hardLight => some "hard-light"
  | .difference => some "difference"
  | .exclusion => some "exclusion"
  | .hue => some "hue"
  | .saturation => some "saturation"
  | .color => some "color"
  | .luminosity => some "luminosity"

end BlendMode

inductive TextAlign where
  | left
  | center
  | right
  | justified
  | unknown
deriving DecidableEq, Repr, Inhabited

namespace TextAlign

def names : List (String × TextAlign) := [
  ("LEFT", .left), ("CENTER", .center), ("RIGHT", .right), ("JUSTIFIED", .justified)]

def name : TextAlign → String
  | .left => "LEFT"
  | .center => "CENTER"
  | .right => "RIGHT"
  | .justified => "JUSTIFIED"
  | .unknown => "UNKNOWN"

end TextAlign

inductive TextAlignVertical where
  | top
  | center
  | bottom
  | unknown
deriving DecidableEq, Repr, Inhabited

namespace TextAlignVertical

def names : List (String × TextAlignVertical) := [
  ("TOP", .top), ("CENTER", .center), ("BOTTOM", .bottom)]

def name : TextAlignVertical → String
  | .top => "TOP"
  | .center => "CENTER"
  | .bottom => "BOTTOM"
  | .unknown => "UNKNOWN"

end TextAlignVertical

inductive TextCase where
  | asWritten
  | upper
  | lower
  | title
  | smallCaps
  | smallCapsForced
  | unknown
deriving DecidableEq, Repr, Inhabited

namespace TextCase

def names : List (String × TextCase) := [
  ("ORIGINAL", .asWritten), ("UPPER", .upper), ("LOWER", .lower), ("TITLE", .title),
  ("SMALL_CAPS", .smallCaps), ("SMALL_CAPS_FORCED", .smallCapsForced)]

def name : TextCase → String
  | .asWritten => "ORIGINAL"
  | .upper => "UPPER"
  | .lower => "LOWER"
  | .title => "TITLE"
  | .smallCaps => "SMALL_CAPS"
  | .smallCapsForced => "SMALL_CAPS_FORCED"
  | .unknown => "UNKNOWN"

end TextCase

inductive TextDecoration where
  | none
  | underline
  | strikethrough
  | unknown
deriving DecidableEq, Repr, Inhabited

namespace TextDecoration

def names : List (String × TextDecoration) := [
  ("NONE", .none), ("UNDERLINE", .underline), ("STRIKETHROUGH", .strikethrough)]

def name : TextDecoration → String
  | .none => "NONE"
  | .underline => "UNDERLINE"
  | .strikethrough => "STRIKETHROUGH"
  | .unknown => "UNKNOWN"

end TextDecoration

inductive LineHeightUnit where
  | pixels
  | fontSizePercent
  | intrinsicPercent
  | unknown
deriving DecidableEq, Repr, Inhabited

namespace LineHeightUnit

def names : List (String × LineHeightUnit) := [
  ("PIXELS", .pixels), ("FONT_SIZE_%", .fontSizePercent), ("INTRINSIC_%", .intrinsicPercent)]

def name : LineHeightUnit → String
  | .pixels => "PIXELS"
  | .fontSizePercent => "FONT_SIZE_%"
  | .intrinsicPercent => "INTRINSIC_%"
  | .unknown => "Unknown"

end LineHeightUnit

structure TypeStyle where
  fontFamily : Option String := none
  fontPostScriptName : Option String := none
  fontStyle : Option String := none
  fontWeight : Option Float := none
  fontSize : Option Float := none
  italic : Bool := false
  lineHeightPx : Option Float := none
  lineHeightPercentFontSize : Option Float := none
  lineHeightUnit : Option LineHeightUnit := none
  letterSpacing : Float := 0.0
  textAlign : Option TextAlign := none
  textAlignVertical : Option TextAlignVertical := none
  textCase : Option TextCase := none
  textDecoration : Option TextDecoration := none
  paragraphIndent : Float := 0.0
deriving Repr, Inhabited

end Handoff
