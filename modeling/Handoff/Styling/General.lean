import Handoff.Styled.Node
import Handoff.Variables

/-!
# Styles that do not depend on the surroundings

Opacity, gaps, corners, size limits, blending and growth, and the shapes that CSS can cut out.  A
property that is bound to a variable refers to it, with its value in the design as the fallback.
-/

namespace Handoff.Styling

variable (vs : Variables) (n : NodeData)

def opacity : List Declaration :=
  if n.opacity < 1.0 then
    match n.boundVariableId? "opacity" with
    | some id => [declare "opacity" (vs.reference id (Decimal.trimmed n.opacity))]
    | none => [("opacity", .num n.opacity)]
  else []

/-- the main axis of a row or a column -/
def direction? : LayoutMode → Option Direction
  | .horizontal => some .row
  | .vertical => some .column
  | _ => none

/-- negative spacing cannot be a gap -/
def overlap? : Option Overlap := do
  let layout ← n.autoLayout?
  let direction ← direction? layout.mode
  if layout.itemSpacing < 0.0 then some ⟨layout.itemSpacing, direction⟩ else none

/-- items that are spread over the main axis need no gap on it -/
def gap (layout : AutoLayout) : List Declaration :=
  declareIf ((direction? layout.mode).isSome && 0.0 < layout.itemSpacing
      && layout.primaryAlign ≠ .spaceBetween)
    "gap" (vs.bound n "itemSpacing" (px layout.itemSpacing))

def rowGap (layout : AutoLayout) : List Declaration :=
  match layout.counterAxisSpacing with
  | some spacing =>
    declareIf (0.0 < spacing) "row-gap" (vs.bound n "counterAxisSpacing" (px spacing))
  | none => []

def gaps : List Declaration :=
  match n.autoLayout? with
  | some layout => gap vs n layout ++ rowGap vs n layout
  | none => []

/-! ## corners -/

/-- the corners clockwise from the top left: their names in the design and in CSS -/
def cornerNames : List (String × String) := [
  ("topLeftRadius", "border-top-left-radius"), ("topRightRadius", "border-top-right-radius"),
  ("bottomRightRadius", "border-bottom-right-radius"),
  ("bottomLeftRadius", "border-bottom-left-radius")]

/-- the variable that all corners are bound to -/
def sharedCornerVariable? : Option String :=
  match cornerNames.map fun c => n.boundVariableId? c.1 with
  | some id :: ids => if ids.all (· == some id) then some id else none
  | _ => none

def uniformRadius (radius : Option Float) : List Declaration :=
  match radius with
  | some r => declareIf (0.0 < r) "border-radius" (px r)
  | none => []

/-- different corners are written together and, where they are round, one by one -/
def cornerRadii (a b c d : Float) : List Declaration :=
  if b == a && c == a && d == a then uniformRadius (some a)
  else
    declare "border-radius" (String.intercalate " " ([a, b, c, d].map px)) ::
      (cornerNames.zip [a, b, c, d]).flatMap fun e => declareIf (0.0 < e.2) e.1.2 (px e.2)

def corners : List Declaration :=
  match n.corners? with
  | none => []
  | some radii =>
    match (sharedCornerVariable? n).orElse fun _ => n.boundVariableId? "cornerRadius" with
    | some id => [declare "border-radius" (vs.reference id (px (radii.uniform.getD 0.0)))]
    | none => uniformRadius radii.uniform ++
      match radii.perCorner with
      | some (a, b, c, d) => cornerRadii a b c d
      | none => []

/-! ## the rest -/

def limit (key property : String) : Option Float → List Declaration
  | some value => [declare property (vs.bound n key (px value))]
  | none => []

def sizeLimits : List Declaration :=
  limit vs n "minWidth" "min-width" n.sizeLimits.minWidth
    ++ limit vs n "maxWidth" "max-width" n.sizeLimits.maxWidth
    ++ limit vs n "minHeight" "min-height" n.sizeLimits.minHeight
    ++ limit vs n "maxHeight" "max-height" n.sizeLimits.maxHeight

def aspectRatio : List Declaration :=
  match n.bounds with
  | some b =>
    declareIf (n.preserveRatio && 0.0 < b.height)
      "aspect-ratio" (Decimal.fixed 4 (b.width / b.height))
  | none => []

def growth : List Declaration :=
  if 0.0 < n.layoutChild.grow then [("flex-grow", .num n.layoutChild.grow)] else []

def general : List Declaration :=
  opacity vs n ++ gaps vs n ++ corners vs n ++ sizeLimits vs n
    ++ declareIf n.clipsContent "overflow" "hidden"
    ++ declare? "mix-blend-mode" n.blendMode.css?
    ++ aspectRatio n
    ++ declareIf (n.layoutChild.align = some .stretch) "align-self" "stretch"
    ++ growth n

/-- an ellipse is a box with round corners; polygons are cut out along their outline -/
def shape : List Declaration :=
  match n.kind with
  | .ellipse => [declare "border-radius" "50%", declare "overflow" "hidden"]
  | .polygon | .star | .regularPolygon =>
    match n.outline?.bind fun g => g.fills.head? with
    | some outline =>
      declareIf (outline.path ≠ "") "clip-path" ("path('" ++ outline.path ++ "')")
    | none => []
  | _ => []

end Handoff.Styling
