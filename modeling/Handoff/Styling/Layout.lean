import Handoff.Decimal.Binary
import Handoff.Styled.Node

/-!
# Layout, position and size

What a node needs to know of its parent is a `ParentContext`.  Offsets follow the constraints of
the node: it sticks to the start, to the end, to both, to the middle, or to a share of the parent.
-/

namespace Handoff

/-- what a parent tells its children; there is nothing to tell about the parent of the root -/
structure ParentContext where
  layoutMode : Option LayoutMode := none
  bounds : Option Rect := none
  sizingHorizontal : Option Sizing := none
  sizingVertical : Option Sizing := none
deriving Repr, Inhabited

namespace ParentContext

def of (n : NodeData) : ParentContext where
  layoutMode := some n.layoutMode
  bounds := n.bounds
  sizingHorizontal := n.layoutChild.sizingHorizontal
  sizingVertical := n.layoutChild.sizingVertical

def isAutoLayout (p : ParentContext) : Bool := (p.layoutMode.map LayoutMode.isAutoLayout).getD false

end ParentContext

namespace Styling

variable (n : NodeData) (parent : ParentContext)

/-! ## containers -/

/-- a list of tracks as it was written, or as many equal ones as there are -/
def tracks? (sizing : Option String) (count : Nat) : Option String :=
  sizing.orElse fun _ =>
    if 0 < count then some ("repeat(" ++ toString count ++ ", minmax(0, 1fr))") else none

def positiveGap (property : String) (gap : Float) : List Declaration :=
  declareIf (0.0 < gap) property (px gap)

def gridContainer (layout : AutoLayout) : List Declaration :=
  declare "display" "grid" :: match layout.grid with
    | some g => declare? "grid-template-columns" (tracks? g.columnsSizing g.columns)
        ++ declare? "grid-template-rows" (tracks? g.rowsSizing g.rows)
        ++ positiveGap "column-gap" g.columnGap ++ positiveGap "row-gap" g.rowGap
    | none => []

def axisKeyword? : AxisAlign → Option String
  | .min => some "flex-start"
  | .center => some "center"
  | .max => some "flex-end"
  | .spaceBetween => some "space-between"
  | .baseline => some "baseline"
  | .unknown => none

/-- a container in a container of the same direction is a block, any other an inline block -/
def flexContainer (layout : AutoLayout) (direction : String) : List Declaration :=
  [declare "display" (if parent.layoutMode = some layout.mode then "flex" else "inline-flex"),
    declare "flex-direction" direction]
    ++ declare? "justify-content" (axisKeyword? layout.primaryAlign)
    ++ declare? "align-items" (axisKeyword? layout.counterAlign)
    ++ declareIf (layout.wrap = .wrap) "flex-wrap" "wrap"

/-- one, two or four lengths -/
def paddingText (p : Padding) : String :=
  String.intercalate " " (List.map px (
    if p.top == p.bottom && p.left == p.right then
      if p.top == p.left then [p.top] else [p.top, p.right]
    else [p.top, p.right, p.bottom, p.left]))

def container : List Declaration :=
  match n.autoLayout? with
  | none => []
  | some layout =>
    (match layout.mode with
      | .grid => gridContainer layout
      | .horizontal => flexContainer parent layout "row"
      | .vertical => flexContainer parent layout "column"
      | .none | .unknown => []) ++
    declareIf (!layout.padding.isZero) "padding" (paddingText layout.padding)

/-! ## position -/

/-- the sides of an axis -/
structure AxisSides where
  start : String
  «end» : String

/-- how a node lies on an axis: distances to the two sides, its extent, and that of the parent -/
structure AxisPlace where
  start : Float
  «end» : Float
  extent : Float
  parentExtent : Float

/-- the distance from the middle, which is then corrected by half of the own extent -/
def centerOffset (place : AxisPlace) : String :=
  let offset := place.start + place.extent / 2.0 - place.parentExtent / 2.0
  "calc(50% " ++ (if 0.0 <= offset then "+" else "-") ++ " " ++ Decimal.fixed 2 offset.abs ++ "px)"

def axisOffsets (sides : AxisSides) (place : AxisPlace) : Constraint → List Declaration
  | .center => [declare sides.start (centerOffset place)]
  | .max => [declare sides.end (px place.end)]
  | .stretch => [declare sides.start (px place.start), declare sides.end (px place.end)]
  | .scale =>
    if 0.0 < place.parentExtent then
      [declare sides.start (Decimal.trimmed (place.start / place.parentExtent * 100.0) ++ "%")]
    else [declare sides.start (px place.start)]
  | .min | .unknown => [declare sides.start (px place.start)]

def centering (c : Constraints) : List Declaration :=
  declare? "translate" (match c.horizontal, c.vertical with
    | .center, .center => some "-50% -50%"
    | .center, _ => some "-50% 0"
    | _, .center => some "0 -50%"
    | _, _ => none)

/-- the offsets of `bounds` in a parent -/
def offsets (bounds parent : Rect) (c : Constraints) : List Declaration :=
  let x := bounds.x - parent.x
  let y := bounds.y - parent.y
  axisOffsets ⟨"left", "right"⟩
      ⟨x, parent.width - x - bounds.width, bounds.width, parent.width⟩ c.horizontal
    ++ axisOffsets ⟨"top", "bottom"⟩
      ⟨y, parent.height - y - bounds.height, bounds.height, parent.height⟩ c.vertical
    ++ centering c

/-- nodes that say so, and nodes with constraints in a parent without layout, are placed freely -/
def isPlaced : Bool := n.isAbsolute || (!parent.isAutoLayout && n.constraints.isSome)

def position : List Declaration :=
  match n.bounds, parent.bounds with
  | some bounds, some parentBounds =>
    if isPlaced n parent then
      declare "position" "absolute" :: offsets bounds parentBounds (n.constraints.getD {})
    else []
  | _, _ => []

/-- the place in a grid that an attribute says, counted from zero -/
def gridAnchor (key : String) : Nat :=
  ((n.attributes.get? key).bind (Json.asNat? (Decimal.twoTo 64))).getD 0

/-- the line in front of a place, counted from one; lines are words of 64 bits, so the count starts
again after the last of them -/
def gridLine (anchor : Nat) : Nat := (anchor + 1) % Decimal.twoTo 64

def gridSpan (property anchor : String) : Option Nat → List Declaration
  | some span =>
    declareIf (1 < span) property
      (toString (gridLine (gridAnchor n anchor)) ++ " / span " ++ toString span)
  | none => []

def gridSpans : List Declaration :=
  gridSpan n "grid-column" "gridColumnAnchorIndex" n.layoutChild.gridColumnSpan
    ++ gridSpan n "grid-row" "gridRowAnchorIndex" n.layoutChild.gridRowSpan

/-! ## size -/

/-- an image that covers its box keeps its height -/
def hasCoveringImage : Bool :=
  n.fills.any fun p => match p.fill with
    | .image i => i.scaleMode = .fill
    | _ => false

/-- the size of a rotated node is that before the rotation -/
def rotatedSize? : Option Vector2 := if n.rotation != 0.0 then n.size else none

def width? (hugs : Bool) (bounds : Rect) : Option String :=
  if 0.0 < n.layoutChild.grow then none
  else match n.layoutChild.sizingHorizontal, hugs with
    | some .fill, _ => some "100%"
    | some .hug, true => some "auto"
    | _, _ => some (px (((rotatedSize? n).map Vector2.x).getD bounds.width))

def height (hugs : Bool) (bounds : Rect) : String :=
  match n.layoutChild.sizingVertical, hugs with
  | some .fill, _ =>
    if hasCoveringImage n || parent.sizingVertical = some .hug then px bounds.height else "100%"
  | some .hug, true => "auto"
  | _, _ => px (((rotatedSize? n).map Vector2.y).getD bounds.height)

/-- a growing item may shrink again -/
def growthLimits : List Declaration :=
  if n.layoutChild.grow == 1.0 then
    declareIf (n.layoutChild.sizingVertical ≠ some .fill) "min-height" "1px"
      ++ declareIf (n.layoutChild.sizingHorizontal ≠ some .fill) "min-width" "1px"
  else []

/-- only texts and nodes with children hug their content -/
def size (hasChildren : Bool) : List Declaration :=
  match n.bounds with
  | none => []
  | some bounds =>
    let hugs := hasChildren || n.kind = .text
    declare? "width" (width? n hugs bounds) ++ [declare "height" (height n parent hugs bounds)]
      ++ growthLimits n

def layout (hasChildren : Bool) : List Declaration :=
  container n parent ++ position n parent ++ gridSpans n ++ size n parent hasChildren

end Styling
end Handoff
