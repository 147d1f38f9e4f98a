import Handoff.Decimal.Binary
import Handoff.Design.Node
import Handoff.Json.Decode

/-!
# Reading design nodes

An attribute of a node that has the wrong shape counts as absent, so that one of them never
rejects a document; a node is rejected only if it, or something in its list of children, is not an
object.  Paints, effects and outline paths are read strictly, and a list of them keeps those that
can be read.
-/

namespace Handoff
namespace Decode

def orDefault {α : Type} (default : α) (d : Decoder α) (v : Option Json) : α :=
  (v.bind d).getD default

/-- nothing for null, for absence and for what cannot be read -/
def orNone {α : Type} (d : Decoder α) (v : Option Json) : Option α :=
  (v.bind (nullable d)).bind id

/-- the items that can be read; nothing if it is no list -/
def readable {α : Type} (d : Decoder α) (v : Option Json) : List α :=
  ((v.bind Json.asArr?).getD []).filterMap d

/-! ## geometry and paints -/

def lenientFloat (r : Record) (name : String) : Float := orDefault 0.0 float (r.get? name)

def rect : Decoder Rect := fun v =>
  (Record.ofJson? ["x", "y", "width", "height"] v).map fun r =>
    ⟨lenientFloat r "x", lenientFloat r "y", lenientFloat r "width", lenientFloat r "height"⟩

def vector2 : Decoder Vector2 := fun v =>
  (Record.ofJson? ["x", "y"] v).map fun r => ⟨lenientFloat r "x", lenientFloat r "y"⟩

def color : Decoder Color := fun v => do
  let r ← Record.ofJson? ["r", "g", "b", "a"] v
  return ⟨← r.orElse "r" 0.0 float, ← r.orElse "g" 0.0 float, ← r.orElse "b" 0.0 float,
    ← r.orElse "a" 1.0 float⟩

/-- a reference to a variable, by its id -/
def «alias» : Decoder String := fun v => do
  let r ← Record.ofJson? ["id"] v
  r.required "id" string

/-- the variable of a color among the bound variables of a paint -/
def paintVariables : Decoder (Option String) := fun v => do
  let r ← Record.ofJson? ["color"] v
  r.orElse "color" none (nullable «alias»)

def colorStop : Decoder ColorStop := fun v => do
  let r ← Record.ofJson? ["color", "position"] v
  return ⟨← r.orElse "color" {} color, ← r.orElse "position" 0.0 float⟩

def gradient (r : Record) : Option Gradient := do
  return ⟨← r.orElse "gradientHandlePositions" [] (list vector2),
    ← r.orElse "gradientStops" [] (list colorStop)⟩

def scaleMode : Decoder ScaleMode := oneOfOr ScaleMode.names .other

def imageFilters : Decoder ImageFilters := fun v => do
  let r ← Record.ofJson? ["exposure", "contrast", "saturation"] v
  return ⟨← r.orElse "exposure" 0.0 float, ← r.orElse "contrast" 0.0 float,
    ← r.orElse "saturation" 0.0 float⟩

def imagePaint (r : Record) : Option ImagePaint := do
  return ⟨← r.orElse "imageRef" none (nullable string), ← r.orElse "scaleMode" .fill scaleMode,
    ← r.orElse "filters" none (nullable imageFilters)⟩

/-- the names of paint types, in the order in which numbers may stand for them -/
def paintTypes : List String :=
  ["SOLID", "GRADIENT_LINEAR", "GRADIENT_RADIAL", "GRADIENT_ANGULAR", "GRADIENT_DIAMOND", "IMAGE"]

/-- the type of a paint: its name, or its number -/
def paintType : Decoder String
  | .str s => some s
  | .num (.int n) => if 0 ≤ n then some ((paintTypes[n.toNat]?).getD "") else none
  | _ => none

def paintFill (r : Record) : Option PaintFill := do
  match ← r.required "type" paintType with
  | "SOLID" => return .solid (← r.orElse "color" {} color)
  | "GRADIENT_LINEAR" => return .gradient .linear (← gradient r)
  | "GRADIENT_RADIAL" => return .gradient .radial (← gradient r)
  | "GRADIENT_ANGULAR" => return .gradient .angular (← gradient r)
  | "GRADIENT_DIAMOND" => return .gradient .diamond (← gradient r)
  | "IMAGE" => return .image (← imagePaint r)
  | _ => return .unsupported

/-- a paint is written as an object only -/
def paint : Decoder Paint := fun v => do
  let r : Record := ⟨← v.asObj?, false⟩
  return {
    visible := ← r.orElse "visible" true bool
    opacity := ← r.orElse "opacity" 1.0 float
    colorVariable := ← r.orElse "boundVariables" none paintVariables
    fill := ← paintFill r }

def effect : Decoder Effect := fun v => do
  let r ← Record.ofJson? ["type", "visible", "radius", "color", "offset", "spread"] v
  return {
    kind := ← r.required "type" (oneOfOr EffectKind.names .other)
    visible := ← r.orElse "visible" true bool
    radius := ← r.orElse "radius" 0.0 float
    color := ← r.orElse "color" none (nullable color)
    offset := ← r.orElse "offset" {} vector2
    spread := ← r.orElse "spread" 0.0 float }

def outlinePath : Decoder OutlinePath := fun v => do
  let r ← Record.ofJson? ["path", "windingRule"] v
  return ⟨← r.orElse "path" "" string,
    ← r.orElse "windingRule" .nonzero (oneOfOr WindingRule.names .other)⟩

def sideWeights : Decoder Padding := fun v => do
  let r ← Record.ofJson? ["top", "right", "bottom", "left"] v
  return ⟨← r.orElse "top" 0.0 float, ← r.orElse "right" 0.0 float, ← r.orElse "bottom" 0.0 float,
    ← r.orElse "left" 0.0 float⟩

def three : Decoder (Float × Float × Float) := fun v =>
  match v.asArr? with
  | some [a, b, c] => do return (← float a, ← float b, ← float c)
  | _ => none

def transformRows : Decoder ((Float × Float × Float) × (Float × Float × Float)) := fun v =>
  match v.asArr? with
  | some [a, b] => do return (← three a, ← three b)
  | _ => none

def four : Decoder (Float × Float × Float × Float) := fun v =>
  match v.asArr? with
  | some [a, b, c, d] => do return (← float a, ← float b, ← float c, ← float d)
  | _ => none

/-! ## the other attributes -/

def constraint : Decoder Constraint := oneOfOr Constraint.names .unknown

def constraints : Decoder Constraints := fun v => do
  let r ← Record.ofJson? ["horizontal", "vertical"] v
  return ⟨← r.orElse "horizontal" .min constraint, ← r.orElse "vertical" .min constraint⟩

/-- one alias, a list of aliases, or anything -/
def boundVariable : Decoder BoundVariable := fun v =>
  match «alias» v with
  | some id => some (.alias id)
  | none => match list «alias» v with
    | some ids => some (.aliases ids)
    | none => some (.other v)

def componentProperty : Decoder ComponentProperty := fun v => do
  let r ← Record.ofJson? ["value", "type"] v
  return ⟨(r.get? "value").getD .null, ← r.orElse "type" none (nullable string)⟩

def typeStyleFields : List String := [
  "fontFamily", "fontPostScriptName", "fontStyle", "fontWeight", "fontSize", "italic",
  "lineHeightPx", "lineHeightPercentFontSize", "lineHeightUnit", "letterSpacing",
  "textAlignHorizontal", "textAlignVertical", "textCase", "textDecoration", "paragraphIndent"]

def typeStyle : Decoder TypeStyle := fun v => do
  let r ← Record.ofJson? typeStyleFields v
  let maybe := fun {α : Type} (name : String) (d : Decoder α) => r.orElse name none (nullable d)
  return {
    fontFamily := ← maybe "fontFamily" string
    fontPostScriptName := ← maybe "fontPostScriptName" string
    fontStyle := ← maybe "fontStyle" string
    fontWeight := ← maybe "fontWeight" float
    fontSize := ← maybe "fontSize" float
    italic := ← r.orElse "italic" false bool
    lineHeightPx := ← maybe "lineHeightPx" float
    lineHeightPercentFontSize := ← maybe "lineHeightPercentFontSize" float
    lineHeightUnit := ← maybe "lineHeightUnit" (oneOfOr LineHeightUnit.names .unknown)
    letterSpacing := ← r.orElse "letterSpacing" 0.0 float
    textAlign := ← maybe "textAlignHorizontal" (oneOfOr TextAlign.names .unknown)
    textAlignVertical := ← maybe "textAlignVertical" (oneOfOr TextAlignVertical.names .unknown)
    textCase := ← maybe "textCase" (oneOfOr TextCase.names .unknown)
    textDecoration := ← maybe "textDecoration" (oneOfOr TextDecoration.names .unknown)
    paragraphIndent := ← r.orElse "paragraphIndent" 0.0 float }

end Decode

namespace NodeData
open Decode

variable (get : String → Option Json)

def readNumber (key : String) : Float := orDefault 0.0 float (get key)

def readNat? (key : String) : Option Nat := orNone (natBelow (Decimal.twoTo 32)) (get key)

def readPaints : PaintStyle where
  fills := readable paint (get "fills")
  strokes := readable paint (get "strokes")
  strokeWeight := (get "strokeWeight").bind float
  sideWeights := orNone Decode.sideWeights (get "individualStrokeWeights")
  strokeAlign := orNone (oneOfOr StrokeAlign.names .unknown) (get "strokeAlign")
  strokeDashes := readable float (get "strokeDashes")

def readCorners : CornerRadii where
  uniform := (get "cornerRadius").bind float
  perCorner := orNone four (get "rectangleCornerRadii")

def readOutline : OutlineGeometry where
  fills := readable outlinePath (get "fillGeometry")
  strokes := readable outlinePath (get "strokeGeometry")

def readGrid : GridTracks where
  columns := (readNat? get "gridColumnCount").getD 0
  rows := (readNat? get "gridRowCount").getD 0
  columnGap := readNumber get "gridColumnGap"
  rowGap := readNumber get "gridRowGap"
  columnsSizing := orNone string (get "gridColumnsSizing")
  rowsSizing := orNone string (get "gridRowsSizing")

def readLayout : AutoLayout :=
  let mode := orDefault LayoutMode.none (oneOfOr LayoutMode.names .unknown) (get "layoutMode")
  { mode
    itemSpacing := readNumber get "itemSpacing"
    counterAxisSpacing := (get "counterAxisSpacing").bind float
    padding := ⟨readNumber get "paddingTop", readNumber get "paddingRight",
      readNumber get "paddingBottom", readNumber get "paddingLeft"⟩
    primaryAlign :=
      orDefault AxisAlign.min (oneOfOr AxisAlign.names .unknown) (get "primaryAxisAlignItems")
    counterAlign :=
      orDefault AxisAlign.min (oneOfOr AxisAlign.names .unknown) (get "counterAxisAlignItems")
    wrap := orDefault LayoutWrap.noWrap (oneOfOr LayoutWrap.names .unknown) (get "layoutWrap")
    reverseZIndex := orDefault false bool (get "itemReverseZIndex")
    grid := if mode = .grid then some (readGrid get) else none }

def readLayoutChild : LayoutChild where
  positioning :=
    orDefault Positioning.auto (oneOfOr Positioning.names .unknown) (get "layoutPositioning")
  sizingHorizontal := orNone (oneOfOr Sizing.names .unknown) (get "layoutSizingHorizontal")
  sizingVertical := orNone (oneOfOr Sizing.names .unknown) (get "layoutSizingVertical")
  grow := readNumber get "layoutGrow"
  align := orNone (oneOfOr LayoutAlign.names .unknown) (get "layoutAlign")
  gridColumnSpan := readNat? get "gridColumnSpan"
  gridRowSpan := readNat? get "gridRowSpan"

def readSizeLimits : SizeLimits where
  minWidth := (get "minWidth").bind float
  maxWidth := (get "maxWidth").bind float
  minHeight := (get "minHeight").bind float
  maxHeight := (get "maxHeight").bind float

def readPayload (kind : NodeKind) : Payload :=
  match kind with
  | .group => .group
  | .text => .text (orDefault "" string (get "characters"))
      (orDefault {} typeStyle (get "style")) (readPaints get)
  | .rectangle | .ellipse | .polygon | .star | .regularPolygon =>
    .shape (readPaints get) (readCorners get) (readOutline get)
  | .vector | .booleanOperation | .line => .vector (readPaints get) (readOutline get)
  | _ => .container ⟨readLayout get, readPaints get, readCorners get,
      orDefault false bool (get "clipsContent")⟩

/-- the attributes, and those of the text style where they have no value of their own -/
def mergeStyle (attributes : Dict Json) : Dict Json :=
  match attributes.get? "style" with
  | some (.obj style) => style.foldl (fun d e => d.setDefault e.1 e.2) attributes
  | _ => attributes

/-- the data of a node from its members; the list of children is not among its attributes -/
def ofMembers (ms : List (String × Json)) : NodeData :=
  let attributes : Dict Json := (Dict.ofList ms).erase "children"
  let get := attributes.get?
  let kindName := orDefault "" string (get "type")
  let kind := NodeKind.ofName kindName
  { id := orDefault "" string (get "id")
    name := orDefault "" string (get "name")
    kind
    kindName
    visible := orDefault true bool (get "visible")
    bounds := orNone rect (get "absoluteBoundingBox")
    size := orNone vector2 (get "size")
    relativeTransform := orNone transformRows (get "relativeTransform")
    rotation := readNumber get "rotation"
    opacity := orDefault 1.0 float (get "opacity")
    blendMode :=
      orDefault BlendMode.passThrough (oneOfOr BlendMode.names .unknown) (get "blendMode")
    constraints := orNone Decode.constraints (get "constraints")
    layoutChild := readLayoutChild get
    sizeLimits := readSizeLimits get
    effects := readable effect (get "effects")
    isMask := orDefault false bool (get "isMask")
    preserveRatio := orDefault false bool (get "preserveRatio")
    hasExportSettings := !(readable some (get "exportSettings")).isEmpty
    boundVariables := orDefault ∅ (dict boundVariable) (get "boundVariables")
    componentProperties := orDefault ∅ (dict componentProperty) (get "componentProperties")
    componentPropertyReferences := orDefault ∅ (dict string) (get "componentPropertyReferences")
    payload := readPayload get kind
    attributes := mergeStyle attributes }

/-- texts, shapes and nothing else keep no children -/
def keepsChildren (n : NodeData) : Bool :=
  match n.payload with
  | .text .. | .shape .. => false
  | _ => true

end NodeData

namespace DesignNode

/-- a node from its data and the children it was written with -/
def build (data : NodeData) (children : List DesignNode) : DesignNode :=
  ⟨data, if data.keepsChildren then children else []⟩

mutual
def ofJson? (v : Json) : Option DesignNode :=
  match v with
  | .obj ms => (childrenOf? ms).map (build (NodeData.ofMembers ms))
  | _ => none
termination_by structural v

/-- the nodes in the list of children, none if there is no such list -/
def childrenOf? (ms : List (String × Json)) : Option (List DesignNode) :=
  match ms with
  | [] => some []
  | (k, v) :: ms => if k = "children" then itemsOf? v else childrenOf? ms
termination_by structural ms

def itemsOf? (v : Json) : Option (List DesignNode) :=
  match v with
  | .arr items => allOf? items
  | _ => some []
termination_by structural v

def allOf? (vs : List Json) : Option (List DesignNode) :=
  match vs with
  | [] => some []
  | v :: vs => match ofJson? v, allOf? vs with
    | some n, some ns => some (n :: ns)
    | _, _ => none
termination_by structural vs
end

end DesignNode
end Handoff
