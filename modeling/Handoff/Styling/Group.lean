import Handoff.Styling.Layout

/-!
# Groups

A group has no place of its own in the output.  A group with one child gives way to it, and hands on
its position and its opacity as a patch of styles.  The children of a larger group are stacked on
one cell of a grid.

* `inlinePatch`    what the only child takes over from its group;
* `stackStyles`    the styles of a stack;
* `cellPatch`      what a child changes when it is put on a stack.
-/

namespace Handoff.Styling

def rotateText (degrees : Float) : String := "rotate(" ++ Decimal.trimmed degrees ++ "deg)"

/-- the group turns first, then the child inside of it -/
def composedRotation (group child : Float) : String :=
  if child == 0.0 then rotateText group else rotateText group ++ " " ++ rotateText child

def sizeOf : Option Vector2 → List Declaration
  | some size => [declare "width" (px size.x), declare "height" (px size.y)]
  | none => []

/-- where an absolute group is: a rotated one by its bounds, any other by its transformation -/
def groupPlace (group child : NodeData) (parent : ParentContext) : List Declaration :=
  match group.rotationDegrees != 0.0, group.bounds, parent.bounds with
  | true, some bounds, some parentBounds =>
    [declare "left" (px (bounds.x - parentBounds.x)),
      declare "top" (px (bounds.y - parentBounds.y)),
      declare "transform" (composedRotation group.rotationDegrees child.rotationDegrees)]
      ++ sizeOf group.size
  | _, _, _ => match group.relativeTransform with
    | some ((_, _, x), (_, _, y)) => [declare "left" (px x), declare "top" (px y)]
    | none => []

def groupOpacity (group : NodeData) : List Declaration :=
  if group.opacity != 1.0 then [("opacity", .num group.opacity)] else []

def inlinePatch (group child : NodeData) (parent : ParentContext) : StylePatch :=
  let place := if group.isAbsolute then
      declare "position" "absolute" :: groupPlace group child parent
    else []
  StylePatch.setAll ∅ (place ++ groupOpacity group)

/-! ## stacks -/

def stackPosition (group : NodeData) (parent : ParentContext) : List Declaration :=
  match group.bounds, parent.bounds with
  | some bounds, some parentBounds =>
    if !parent.isAutoLayout || group.isAbsolute then
      [declare "position" "absolute", declare "width" (px bounds.width),
        declare "height" (px bounds.height)]
        ++ offsets bounds parentBounds (group.constraints.getD {})
    else []
  | _, _ => []

def stackStyles (group : NodeData) (parent : ParentContext) : Styles :=
  Styles.write ∅ (
    [declare "display" "inline-grid", declare "grid-template-columns" "max-content",
      declare "grid-template-rows" "max-content", declare "place-items" "start"]
      ++ stackPosition group parent ++ groupOpacity group)

/-- the children of a stack know its bounds and the sizing of its parent -/
def stackContext (group : NodeData) (parent : ParentContext) : ParentContext :=
  { parent with layoutMode := none, bounds := group.bounds }

/-- a child that is pinned to the right or to the bottom keeps its distance from there -/
def isPinned (n : NodeData) : Bool :=
  match n.constraints with
  | some c => c.horizontal = .max || c.vertical = .max
  | none => false

def positiveMargin (property : String) (distance : Float) : List Declaration :=
  declareIf (0.0 < distance) property (px distance)

def cellMargins (bounds group : Rect) : List Declaration :=
  positiveMargin "margin-left" (bounds.x - group.x).round
    ++ positiveMargin "margin-top" (bounds.y - group.y).round

def pinnedPatch (bounds group : Rect) (c : Constraints) : StylePatch :=
  (StylePatch.removeAll ∅ ["left", "top", "right", "bottom"]).setAll
    (declare "position" "absolute" :: offsets bounds group c)

def cellPatch (child : NodeData) (groupBounds : Option Rect) : StylePatch :=
  let onCell : List Declaration → StylePatch := fun margins =>
    (StylePatch.removeAll ∅ ["position", "top", "left", "right", "bottom", "translate"]).setAll
      (declare "grid-area" "1 / 1" :: margins)
  match child.bounds, groupBounds with
  | some bounds, some group =>
    if isPinned child then pinnedPatch bounds group (child.constraints.getD {})
    else onCell (cellMargins bounds group)
  | _, _ => onCell []

/-- the image of the mask that a stack begins with -/
def maskImage? (first : NodeData) : Option String :=
  if first.isMask then first.fills.findSome? Paint.imageRef? else none

/-- a child with absolute children is the box that they are placed in -/
def contain (n : StyledNode) : StyledNode :=
  if !n.isAbsolute && n.children.any (fun c => c.isAbsolute) then
    n.restyle fun s => s.put "position" "relative"
  else n

/-- a child of a group, as it lies on the stack -/
def onStack (group : NodeData) (mask : Option String) (source : NodeData) (n : StyledNode) :
    StyledNode :=
  let masked : StyledNode := { n with maskImageRef := mask.orElse fun _ => n.maskImageRef }
  contain (masked.restyle (cellPatch source group.bounds).apply)

end Handoff.Styling
