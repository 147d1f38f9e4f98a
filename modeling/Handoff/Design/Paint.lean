import Handoff.Decimal.Notation

/-!
# Geometry, colors, paints and effects
-/

namespace Handoff

structure Rect where
  x : Float := 0.0
  y : Float := 0.0
  width : Float := 0.0
  height : Float := 0.0
deriving Repr, Inhabited

structure Vector2 where
  x : Float := 0.0
  y : Float := 0.0
deriving Repr, Inhabited

/-! ## colors -/

/-- channels between zero and one -/
structure Color where
  r : Float := 0.0
  g : Float := 0.0
  b : Float := 0.0
  a : Float := 1.0
deriving Repr, Inhabited

/-- `x` moved into the unit interval -/
def clampUnit (x : Float) : Float := if x < 0.0 then 0.0 else if 1.0 < x then 1.0 else x

/-- the nearest natural to a small non-negative number, ties to the even one -/
def roundToNat (x : Float) : Nat :=
  let below := x.floor
  let rest := x - below
  let n := below.toUInt64.toNat
  if rest < 0.5 then n else if 0.5 < rest then n + 1 else n + n % 2

namespace Color

/-- a channel as a byte: scaled in single precision -/
def byte (x : Float) : Nat := roundToNat ((clampUnit x).toFloat32 * 255.0).toFloat

def rgb8 (c : Color) : Nat × Nat × Nat := (byte c.r, byte c.g, byte c.b)

def hexPair (n : Nat) : String :=
  let digits := Nat.toDigits 16 n
  String.ofList (if digits.length < 2 then '0' :: digits else digits)

def hex (c : Color) : String :=
  "#" ++ hexPair (byte c.r) ++ hexPair (byte c.g) ++ hexPair (byte c.b)

def rgba (c : Color) (alpha : Float) : String :=
  "rgba(" ++ toString (byte c.r) ++ ", " ++ toString (byte c.g) ++ ", " ++ toString (byte c.b)
    ++ ", " ++ Decimal.trimmed (clampUnit alpha) ++ ")"

/-- an opaque color is written in hexadecimal -/
def css (c : Color) (alpha : Float) : String := if 1.0 <= alpha then c.hex else c.rgba alpha

end Color

/-! ## paints -/

structure ColorStop where
  color : Color := {}
  position : Float := 0.0
deriving Repr, Inhabited

structure Gradient where
  handles : List Vector2 := []
  stops : List ColorStop := []
deriving Repr, Inhabited

inductive GradientShape where
  | linear
  | radial
  | angular
  | diamond
deriving DecidableEq, Repr

inductive ScaleMode where
  | fill
  | fit
  | tile
  | stretch
  | crop
  | other
deriving DecidableEq, Repr, Inhabited

namespace ScaleMode

def names : List (String × ScaleMode) := [
  ("FILL", .fill), ("FIT", .fit), ("TILE", .tile), ("STRETCH", .stretch), ("CROP", .crop)]

def name : ScaleMode → String
  | .fill => "FILL"
  | .fit => "FIT"
  | .tile => "TILE"
  | .stretch => "STRETCH"
  | .crop => "CROP"
  | .other => "OTHER"

/-- how the image fills its box, as CSS says it -/
def objectFit : ScaleMode → String
  | .fill | .crop | .other => "cover"
  | .fit => "contain"
  | .tile => "none"
  | .stretch => "fill"

end ScaleMode

structure ImageFilters where
  exposure : Float := 0.0
  contrast : Float := 0.0
  saturation : Float := 0.0
deriving Repr, Inhabited

structure ImagePaint where
  imageRef : Option String := none
  scaleMode : ScaleMode := .fill
  filters : Option ImageFilters := none
deriving Repr, Inhabited

inductive PaintFill where
  | solid (color : Color)
  | gradient (shape : GradientShape) (gradient : Gradient)
  | image (image : ImagePaint)
  | unsupported
deriving Repr, Inhabited

/-- one layer of fill or stroke -/
structure Paint where
  visible : Bool := true
  opacity : Float := 1.0
  /-- the variable that a color is bound to -/
  colorVariable : Option String := none
  fill : PaintFill
deriving Repr, Inhabited

namespace Paint

def solid (c : Color) : Paint := { fill := .solid c }

def isImage (p : Paint) : Bool :=
  match p.fill with
  | .image _ => true
  | _ => false

def imageRef? (p : Paint) : Option String :=
  match p.fill with
  | .image i => i.imageRef
  | _ => none

end Paint

/-! ## effects and outlines -/

inductive EffectKind where
  | dropShadow
  | innerShadow
  | layerBlur
  | backgroundBlur
  | other
deriving DecidableEq, Repr, Inhabited

namespace EffectKind

def names : List (String × EffectKind) := [
  ("DROP_SHADOW", .dropShadow), ("INNER_SHADOW", .innerShadow), ("LAYER_BLUR", .layerBlur),
  ("BACKGROUND_BLUR", .backgroundBlur)]

def name : EffectKind → String
  | .dropShadow => "DROP_SHADOW"
  | .innerShadow => "INNER_SHADOW"
  | .layerBlur => "LAYER_BLUR"
  | .backgroundBlur => "BACKGROUND_BLUR"
  | .other => "OTHER"

end EffectKind

structure Effect where
  kind : EffectKind
  visible : Bool := true
  radius : Float := 0.0
  color : Option Color := none
  offset : Vector2 := {}
  spread : Float := 0.0
deriving Repr, Inhabited

inductive WindingRule where
  | nonzero
  | evenodd
  | other
deriving DecidableEq, Repr, Inhabited

namespace WindingRule

def names : List (String × WindingRule) := [("NONZERO", .nonzero), ("EVENODD", .evenodd)]

def name : WindingRule → String
  | .nonzero => "NONZERO"
  | .evenodd => "EVENODD"
  | .other => "OTHER"

end WindingRule

structure OutlinePath where
  path : String := ""
  windingRule : WindingRule := .nonzero
deriving Repr, Inhabited

end Handoff
