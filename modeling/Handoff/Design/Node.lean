import Handoff.Dict
import Handoff.Json.Basic
import Handoff.Design.Kind
import Handoff.Design.Layout
import Handoff.Design.Paint
import Handoff.Design.Typography

/-!
# Design nodes

A design node has attributes that every node carries, a payload that depends on its kind, and
children.  Only containers, groups and vectors keep children; texts and shapes have none.
-/

namespace Handoff

inductive StrokeAlign where
  | inside
  | outside
  | center
  | unknown
deriving DecidableEq, Repr, Inhabited

namespace StrokeAlign

def names : List (String × StrokeAlign) := [
  ("INSIDE", .inside), ("OUTSIDE", .outside), ("CENTER", .center)]

def name : StrokeAlign → String
  | .inside => "INSIDE"
  | .outside => "OUTSIDE"
  | .center => "CENTER"
  | .unknown => "UNKNOWN"

end StrokeAlign

/-- fill and stroke layers, bottom first -/
structure PaintStyle where
  fills : List Paint := []
  strokes : List Paint := []
  strokeWeight : Option Float := none
  sideWeights : Option Padding := none
  strokeAlign : Option StrokeAlign := none
  strokeDashes : List Float := []
deriving Repr, Inhabited

def PaintStyle.visibleFills (p : PaintStyle) : List Paint := p.fills.filter Paint.visible

def PaintStyle.visibleStrokes (p : PaintStyle) : List Paint := p.strokes.filter Paint.visible

/-- one radius for all corners, and the radii clockwise from the top left -/
structure CornerRadii where
  uniform : Option Float := none
  perCorner : Option (Float × Float × Float × Float) := none
deriving Repr, Inhabited

structure OutlineGeometry where
  fills : List OutlinePath := []
  strokes : List OutlinePath := []
deriving Repr, Inhabited

/-- what a property is bound to: a variable, several of them, or something else -/
inductive BoundVariable where
  | alias (id : String)
  | aliases (ids : List String)
  | other (v : Json)
deriving Repr, Inhabited

def BoundVariable.firstId? : BoundVariable → Option String
  | .alias id => some id
  | .aliases ids => ids.head?
  | .other _ => none

structure ComponentProperty where
  value : Json := .null
  kind : Option String := none
deriving Repr, Inhabited

structure ContainerData where
  layout : AutoLayout := {}
  paints : PaintStyle := {}
  corners : CornerRadii := {}
  clipsContent : Bool := false
deriving Repr, Inhabited

inductive Payload where
  | container (data : ContainerData)
  | group
  | text (characters : String) (style : TypeStyle) (paints : PaintStyle)
  | shape (paints : PaintStyle) (corners : CornerRadii) (geometry : OutlineGeometry)
  | vector (paints : PaintStyle) (geometry : OutlineGeometry)
deriving Repr, Inhabited

/-- all of a node but its children -/
structure NodeData where
  id : String := ""
  name : String := ""
  kind : NodeKind := .other
  /-- the kind as it was written -/
  kindName : String := ""
  visible : Bool := true
  bounds : Option Rect := none
  size : Option Vector2 := none
  /-- the rows of the transformation into the parent -/
  relativeTransform : Option ((Float × Float × Float) × (Float × Float × Float)) := none
  /-- in radians, counter-clockwise -/
  rotation : Float := 0.0
  opacity : Float := 1.0
  blendMode : BlendMode := .passThrough
  constraints : Option Constraints := none
  layoutChild : LayoutChild := {}
  sizeLimits : SizeLimits := {}
  effects : List Effect := []
  isMask : Bool := false
  preserveRatio : Bool := false
  hasExportSettings : Bool := false
  boundVariables : Dict BoundVariable := ∅
  componentProperties : Dict ComponentProperty := ∅
  componentPropertyReferences : Dict String := ∅
  payload : Payload := .group
  /-- the attributes as they were written, without the children; the text style is merged in -/
  attributes : Dict Json := ∅
deriving Inhabited

structure DesignNode extends NodeData where
  children : List DesignNode
deriving Inhabited

namespace NodeData

def pi : Float := 3.141592653589793

def paints? (n : NodeData) : Option PaintStyle :=
  match n.payload with
  | .container d => some d.paints
  | .text _ _ p | .shape p _ _ | .vector p _ => some p
  | .group => none

def fills (n : NodeData) : List Paint := (n.paints?.map PaintStyle.fills).getD []

def autoLayout? (n : NodeData) : Option AutoLayout :=
  match n.payload with
  | .container d => some d.layout
  | _ => none

def layoutMode (n : NodeData) : LayoutMode := (n.autoLayout?.map AutoLayout.mode).getD .none

def corners? (n : NodeData) : Option CornerRadii :=
  match n.payload with
  | .container d => some d.corners
  | .shape _ c _ => some c
  | _ => none

def outline? (n : NodeData) : Option OutlineGeometry :=
  match n.payload with
  | .shape _ _ g | .vector _ g => some g
  | _ => none

def characters? (n : NodeData) : Option String :=
  match n.payload with
  | .text cs _ _ => some cs
  | _ => none

def typeStyle? (n : NodeData) : Option TypeStyle :=
  match n.payload with
  | .text _ s _ => some s
  | _ => none

def clipsContent (n : NodeData) : Bool :=
  match n.payload with
  | .container d => d.clipsContent
  | _ => false

def boundsOrZero (n : NodeData) : Rect := n.bounds.getD {}

def width (n : NodeData) : Float :=
  ((n.size.map Vector2.x).orElse fun _ => n.bounds.map Rect.width).getD 0.0

def height (n : NodeData) : Float :=
  ((n.size.map Vector2.y).orElse fun _ => n.bounds.map Rect.height).getD 0.0

/-- the own rotation as CSS counts it: in degrees, clockwise -/
def rotationDegrees (n : NodeData) : Float :=
  if n.rotation == 0.0 then 0.0 else -n.rotation * 180.0 / pi

def isAbsolute (n : NodeData) : Bool := n.layoutChild.positioning = .absolute

def hasImageFill (n : NodeData) : Bool := n.fills.any fun p => p.visible && p.isImage

def boundVariableId? (n : NodeData) (property : String) : Option String :=
  (n.boundVariables.get? property).bind BoundVariable.firstId?

end NodeData

/-! ## walks -/

mutual
/-- a node and its descendants, each before its own descendants -/
def DesignNode.preOrder (n : DesignNode) : List DesignNode :=
  match n with
  | ⟨d, cs⟩ => ⟨d, cs⟩ :: DesignNode.preOrderAll cs
termination_by structural n

def DesignNode.preOrderAll (ns : List DesignNode) : List DesignNode :=
  match ns with
  | [] => []
  | n :: ns => n.preOrder ++ DesignNode.preOrderAll ns
termination_by structural ns
end

end Handoff
