import Handoff.Design.Node

/-!
# Design nodes as JSON

The view of a node that is shown to a reader: its attributes as they were understood, with the
defaults filled in.
-/

namespace Handoff

def Json.ofFloat? : Option Float → Json := Json.ofOption .ofFloat

def Json.ofString? : Option String → Json := Json.ofOption .str

def Rect.toJson (r : Rect) : Json := .obj [
  ("x", .ofFloat r.x), ("y", .ofFloat r.y), ("width", .ofFloat r.width),
  ("height", .ofFloat r.height)]

def Vector2.toJson (v : Vector2) : Json := .obj [("x", .ofFloat v.x), ("y", .ofFloat v.y)]

def Color.toJson (c : Color) : Json := .obj [
  ("r", .ofFloat c.r), ("g", .ofFloat c.g), ("b", .ofFloat c.b), ("a", .ofFloat c.a)]

def Gradient.members (g : Gradient) : List (String × Json) := [
  ("gradientHandlePositions", .ofList Vector2.toJson g.handles),
  ("gradientStops", .ofList (fun s =>
    .obj [("color", s.color.toJson), ("position", .ofFloat s.position)]) g.stops)]

def ImageFilters.toJson (f : ImageFilters) : Json := .obj [
  ("exposure", .ofFloat f.exposure), ("contrast", .ofFloat f.contrast),
  ("saturation", .ofFloat f.saturation)]

def GradientShape.name : GradientShape → String
  | .linear => "GRADIENT_LINEAR"
  | .radial => "GRADIENT_RADIAL"
  | .angular => "GRADIENT_ANGULAR"
  | .diamond => "GRADIENT_DIAMOND"

def PaintFill.members : PaintFill → List (String × Json)
  | .solid color => [("type", .str "SOLID"), ("color", color.toJson)]
  | .gradient shape g => ("type", .str shape.name) :: g.members
  | .image i => [("type", .str "IMAGE"), ("imageRef", .ofString? i.imageRef),
      ("scaleMode", .str i.scaleMode.name), ("filters", .ofOption ImageFilters.toJson i.filters)]
  | .unsupported => [("type", .str "UNSUPPORTED")]

def Paint.toJson (p : Paint) : Json := .obj ([
  ("visible", .bool p.visible), ("opacity", .ofFloat p.opacity),
  ("boundVariables", .obj (match p.colorVariable with
    | some id => [("color", .obj [("id", .str id)])]
    | none => []))] ++ p.fill.members)

def Effect.toJson (e : Effect) : Json := .obj [
  ("type", .str e.kind.name), ("visible", .bool e.visible), ("radius", .ofFloat e.radius),
  ("color", .ofOption Color.toJson e.color), ("offset", e.offset.toJson),
  ("spread", .ofFloat e.spread)]

def OutlinePath.toJson (p : OutlinePath) : Json := .obj [
  ("path", .str p.path), ("windingRule", .str p.windingRule.name)]

def OutlineGeometry.toJson (g : OutlineGeometry) : Json := .obj [
  ("fill_geometry", .ofList OutlinePath.toJson g.fills),
  ("stroke_geometry", .ofList OutlinePath.toJson g.strokes)]

def Padding.toJson (p : Padding) : Json := .obj [
  ("top", .ofFloat p.top), ("right", .ofFloat p.right), ("bottom", .ofFloat p.bottom),
  ("left", .ofFloat p.left)]

def GridTracks.toJson (g : GridTracks) : Json := .obj [
  ("columns", .ofNat g.columns), ("rows", .ofNat g.rows), ("column_gap", .ofFloat g.columnGap),
  ("row_gap", .ofFloat g.rowGap), ("columns_sizing", .ofString? g.columnsSizing),
  ("rows_sizing", .ofString? g.rowsSizing)]

def AutoLayout.toJson (l : AutoLayout) : Json := .obj [
  ("mode", .str l.mode.name), ("item_spacing", .ofFloat l.itemSpacing),
  ("counter_axis_spacing", .ofFloat? l.counterAxisSpacing), ("padding", l.padding.toJson),
  ("primary_align", .str l.primaryAlign.name), ("counter_align", .str l.counterAlign.name),
  ("wrap", .str l.wrap.name), ("reverse_z_index", .bool l.reverseZIndex),
  ("grid", .ofOption GridTracks.toJson l.grid)]

def LayoutChild.toJson (c : LayoutChild) : Json := .obj [
  ("positioning", .str c.positioning.name),
  ("sizing_horizontal", .ofOption (fun s => .str s.name) c.sizingHorizontal),
  ("sizing_vertical", .ofOption (fun s => .str s.name) c.sizingVertical),
  ("grow", .ofFloat c.grow), ("align", .ofOption (fun a => .str a.name) c.align),
  ("grid_column_span", .ofOption .ofNat c.gridColumnSpan),
  ("grid_row_span", .ofOption .ofNat c.gridRowSpan)]

def SizeLimits.toJson (l : SizeLimits) : Json := .obj [
  ("min_width", .ofFloat? l.minWidth), ("max_width", .ofFloat? l.maxWidth),
  ("min_height", .ofFloat? l.minHeight), ("max_height", .ofFloat? l.maxHeight)]

def PaintStyle.toJson (p : PaintStyle) : Json := .obj [
  ("fills", .ofList Paint.toJson p.fills), ("strokes", .ofList Paint.toJson p.strokes),
  ("stroke_weight", .ofFloat? p.strokeWeight),
  ("individual_stroke_weights", .ofOption Padding.toJson p.sideWeights),
  ("stroke_align", .ofOption (fun a => .str a.name) p.strokeAlign),
  ("stroke_dashes", .ofList .ofFloat p.strokeDashes)]

def CornerRadii.toJson (c : CornerRadii) : Json := .obj [
  ("uniform", .ofFloat? c.uniform),
  ("per_corner", .ofOption (fun (a, b, c, d) => .ofList .ofFloat [a, b, c, d]) c.perCorner)]

def TypeStyle.toJson (s : TypeStyle) : Json := .obj [
  ("fontFamily", .ofString? s.fontFamily), ("fontPostScriptName", .ofString? s.fontPostScriptName),
  ("fontStyle", .ofString? s.fontStyle), ("fontWeight", .ofFloat? s.fontWeight),
  ("fontSize", .ofFloat? s.fontSize), ("italic", .bool s.italic),
  ("lineHeightPx", .ofFloat? s.lineHeightPx),
  ("lineHeightPercentFontSize", .ofFloat? s.lineHeightPercentFontSize),
  ("lineHeightUnit", .ofOption (fun u => .str u.name) s.lineHeightUnit),
  ("letterSpacing", .ofFloat s.letterSpacing),
  ("textAlignHorizontal", .ofOption (fun a => .str a.name) s.textAlign),
  ("textAlignVertical", .ofOption (fun a => .str a.name) s.textAlignVertical),
  ("textCase", .ofOption (fun c => .str c.name) s.textCase),
  ("textDecoration", .ofOption (fun d => .str d.name) s.textDecoration),
  ("paragraphIndent", .ofFloat s.paragraphIndent)]

def Payload.toJson (kind : NodeKind) : Payload → Json
  | .container d => .obj [
      ("kind", .str (if kind = .other then "other" else "container")), ("layout", d.layout.toJson),
      ("paints", d.paints.toJson), ("corners", d.corners.toJson),
      ("clips_content", .bool d.clipsContent)]
  | .group => .obj [("kind", .str "group")]
  | .text characters style paints => .obj [
      ("kind", .str "text"), ("characters", .str characters), ("style", style.toJson),
      ("paints", paints.toJson)]
  | .shape paints corners geometry => .obj [
      ("kind", .str "shape"), ("paints", paints.toJson), ("corners", corners.toJson),
      ("geometry", geometry.toJson)]
  | .vector paints geometry => .obj [
      ("kind", .str "vector"), ("paints", paints.toJson), ("geometry", geometry.toJson)]

def Constraints.toJson (c : Constraints) : Json := .obj [
  ("horizontal", .str c.horizontal.name), ("vertical", .str c.vertical.name)]

def transformJson : (Float × Float × Float) × (Float × Float × Float) → Json
  | ((a, b, c), (d, e, f)) =>
    .arr [.ofList .ofFloat [a, b, c], .ofList .ofFloat [d, e, f]]

def NodeData.members (n : NodeData) : List (String × Json) := [
  ("id", .str n.id), ("name", .str n.name), ("node_type", .str n.kind.name),
  ("type_name", .str n.kindName), ("visible", .bool n.visible),
  ("bounds", .ofOption Rect.toJson n.bounds), ("size", .ofOption Vector2.toJson n.size),
  ("width", .ofFloat n.width), ("height", .ofFloat n.height),
  ("relative_transform", .ofOption transformJson n.relativeTransform),
  ("rotation_degrees", .ofFloat n.rotationDegrees), ("opacity", .ofFloat n.opacity),
  ("blend_mode", .str n.blendMode.name),
  ("constraints", .ofOption Constraints.toJson n.constraints),
  ("layout_child", n.layoutChild.toJson), ("size_limits", n.sizeLimits.toJson),
  ("effects", .ofList Effect.toJson n.effects), ("is_mask", .bool n.isMask),
  ("preserve_ratio", .bool n.preserveRatio),
  ("has_export_settings", .bool n.hasExportSettings),
  ("has_image_fill", .bool n.hasImageFill),
  ("bound_variables", .ofList (fun e => .arr [.str e.1, .ofString? e.2.firstId?])
    n.boundVariables.entries),
  ("component_properties", .ofList (fun e => .arr [.str e.1, e.2.value, .ofString? e.2.kind])
    n.componentProperties.entries),
  ("component_property_references", .ofList (fun e => .arr [.str e.1, .str e.2])
    n.componentPropertyReferences.entries),
  ("attributes", .ofStrings (n.attributes.keys.mergeSort fun a b => decide (a ≤ b))),
  ("payload", n.payload.toJson n.kind)]

mutual
def DesignNode.toJson (n : DesignNode) : Json :=
  match n with
  | ⟨d, cs⟩ => .obj (d.members ++ [("children", .arr (DesignNode.toJsons cs))])
termination_by structural n

def DesignNode.toJsons (ns : List DesignNode) : List Json :=
  match ns with
  | [] => []
  | n :: ns => n.toJson :: DesignNode.toJsons ns
termination_by structural ns
end

end Handoff
