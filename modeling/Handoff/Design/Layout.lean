/-!
# Layout data of design nodes

Enumerations keep a constructor for names that are not known, so that a document with newer names
can still be read.
-/

namespace Handoff

inductive LayoutMode where
  | none
  | horizontal
  | vertical
  | grid
  | unknown
deriving DecidableEq, Repr, Inhabited

namespace LayoutMode

def names : List (String × LayoutMode) := [
  ("NONE", .none), ("HORIZONTAL", .horizontal), ("VERTICAL", .vertical), ("GRID", .grid)]

def name : LayoutMode → String
  | .none => "NONE"
  | .horizontal => "HORIZONTAL"
  | .vertical => "VERTICAL"
  | .grid => "GRID"
  | .unknown => "UNKNOWN"

def isAutoLayout : LayoutMode → Bool
  | .horizontal | .vertical | .grid => true
  | _ => false

end LayoutMode

/-- alignment along either axis of a layout -/
inductive AxisAlign where
  | min
  | center
  | max
  | spaceBetween
  | baseline
  | unknown
deriving DecidableEq, Repr, Inhabited

namespace AxisAlign

def names : List (String × AxisAlign) := [
  ("MIN", .min), ("CENTER", .center), ("MAX", .max), ("SPACE_BETWEEN", .spaceBetween),
  ("BASELINE", .baseline)]

def name : AxisAlign → String
  | .min => "MIN"
  | .center => "CENTER"
  | .max => "MAX"
  | .spaceBetween => "SPACE_BETWEEN"
  | .baseline => "BASELINE"
  | .unknown => "UNKNOWN"

end AxisAlign

inductive LayoutWrap where
  | noWrap
  | wrap
  | unknown
deriving DecidableEq, Repr, Inhabited

namespace LayoutWrap

def names : List (String × LayoutWrap) := [("NO_WRAP", .noWrap), ("WRAP", .wrap)]

def name : LayoutWrap → String
  | .noWrap => "NO_WRAP"
  | .wrap => "WRAP"
  | .unknown => "UNKNOWN"

end LayoutWrap

inductive Sizing where
  | fixed
  | hug
  | fill
  | unknown
deriving DecidableEq, Repr, Inhabited

namespace Sizing

def names : List (String × Sizing) := [("FIXED", .fixed), ("HUG", .hug), ("FILL", .fill)]

def name : Sizing → String
  | .fixed => "FIXED"
  | .hug => "HUG"
  | .fill => "FILL"
  | .unknown => "UNKNOWN"

end Sizing

inductive Positioning where
  | auto
  | absolute
  | unknown
deriving DecidableEq, Repr, Inhabited

namespace Positioning

def names : List (String × Positioning) := [("AUTO", .auto), ("ABSOLUTE", .absolute)]

def name : Positioning → String
  | .auto => "AUTO"
  | .absolute => "ABSOLUTE"
  | .unknown => "UNKNOWN"

end Positioning

inductive LayoutAlign where
  | inherit
  | stretch
  | min
  | center
  | max
  | unknown
deriving DecidableEq, Repr, Inhabited

namespace LayoutAlign

def names : List (String × LayoutAlign) := [
  ("INHERIT", .inherit), ("STRETCH", .stretch), ("MIN", .min), ("CENTER", .center), ("MAX", .max)]

def name : LayoutAlign → String
  | .inherit => "INHERIT"
  | .stretch => "STRETCH"
  | .min => "MIN"
  | .center => "CENTER"
  | .max => "MAX"
  | .unknown => "UNKNOWN"

end LayoutAlign

/-- where a node sticks to when its parent grows; the names of both axes are read as one -/
inductive Constraint where
  | min
  | max
  | center
  | stretch
  | scale
  | unknown
deriving DecidableEq, Repr, Inhabited

namespace Constraint

def names : List (String × Constraint) := [
  ("MIN", .min), ("LEFT", .min), ("TOP", .min), ("MAX", .max), ("RIGHT", .max), ("BOTTOM", .max),
  ("CENTER", .center), ("STRETCH", .stretch), ("LEFT_RIGHT", .stretch), ("TOP_BOTTOM", .stretch),
  ("SCALE", .scale)]

def name : Constraint → String
  | .min => "MIN"
  | .max => "MAX"
  | .center => "CENTER"
  | .stretch => "STRETCH"
  | .scale => "SCALE"
  | .unknown => "Unknown"

end Constraint

structure Constraints where
  horizontal : Constraint := .min
  vertical : Constraint := .min
deriving Repr, DecidableEq, Inhabited

structure Padding where
  top : Float := 0.0
  right : Float := 0.0
  bottom : Float := 0.0
  left : Float := 0.0
deriving Repr, Inhabited

def Padding.isZero (p : Padding) : Bool :=
  p.top == 0.0 && p.right == 0.0 && p.bottom == 0.0 && p.left == 0.0

structure GridTracks where
  columns : Nat := 0
  rows : Nat := 0
  columnGap : Float := 0.0
  rowGap : Float := 0.0
  columnsSizing : Option String := none
  rowsSizing : Option String := none
deriving Repr, Inhabited

/-- how a container lays out its children -/
structure AutoLayout where
  mode : LayoutMode := .none
  itemSpacing : Float := 0.0
  counterAxisSpacing : Option Float := none
  padding : Padding := {}
  primaryAlign : AxisAlign := .min
  counterAlign : AxisAlign := .min
  wrap : LayoutWrap := .noWrap
  reverseZIndex : Bool := false
  grid : Option GridTracks := none
deriving Repr, Inhabited

/-- how a node sits in the layout of its parent -/
structure LayoutChild where
  positioning : Positioning := .auto
  sizingHorizontal : Option Sizing := none
  sizingVertical : Option Sizing := none
  grow : Float := 0.0
  align : Option LayoutAlign := none
  gridColumnSpan : Option Nat := none
  gridRowSpan : Option Nat := none
deriving Repr, Inhabited

structure SizeLimits where
  minWidth : Option Float := none
  maxWidth : Option Float := none
  minHeight : Option Float := none
  maxHeight : Option Float := none
deriving Repr, Inhabited

end Handoff
