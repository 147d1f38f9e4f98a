import Handoff.Styled.Node
import Handoff.Variables

/-!
# Fills, strokes, drawings and effects

The lowest visible fill becomes the background of a box or the color of a text; all visible fills
are kept as layers.  The first visible stroke becomes the border.  Vectors have neither: their
paints go into a drawing.  Shadows become a box shadow; the drop shadows of a node with an image
become a filter instead, because a box shadow would follow the box and not the image.

* `linearGradient`   the stops lie between two handles in the unit box; CSS wants them on the line
                     through the middle of the box that just reaches its corners.
-/

namespace Handoff.Styling

/-! ## gradients -/

def degreesPerRadian : Float := 180.0 / NodeData.pi

def radiansPerDegree : Float := NodeData.pi / 180.0

/-- the angle of a direction as CSS counts it: from the top, clockwise, in whole degrees -/
def compassAngle (start stop : Vector2) : Float :=
  let angle := (Float.atan2 (stop.x - start.x) (-(stop.y - start.y)) * degreesPerRadian).round
  if angle < 0.0 then angle + 360.0 else angle

def gradientAngle? (g : Gradient) : Option Float :=
  match g.handles with
  | start :: stop :: _ => some (compassAngle start stop)
  | _ => none

def smaller (a b : Float) : Float := if b < a then b else a

def larger (a b : Float) : Float := if a < b then b else a

/-- where two points lie on the gradient line of the unit box, in percent -/
def gradientSpan (angle : Float) (start stop : Vector2) : Float × Float :=
  let dirX := (angle * radiansPerDegree).sin
  let dirY := -(angle * radiansPerDegree).cos
  let along := fun (p : Vector2) => p.x * dirX + p.y * dirY
  let corners := [along ⟨0.0, 0.0⟩, along ⟨1.0, 0.0⟩, along ⟨0.0, 1.0⟩, along ⟨1.0, 1.0⟩]
  let low := corners.foldl smaller (1.0 / 0.0)
  let extent := corners.foldl larger (-1.0 / 0.0) - low
  if 0.0 < extent then
    ((along start - low) / extent * 100.0, (along stop - low) / extent * 100.0)
  else (0.0, 100.0)

def linearGradient (g : Gradient) : String :=
  let angle := (gradientAngle? g).getD 180.0
  let (first, last) := match g.handles with
    | start :: stop :: _ => gradientSpan angle start stop
    | _ => (0.0, 100.0)
  let stops := g.stops.map fun s =>
    s.color.rgba s.color.a ++ " " ++ Decimal.fixed 2 (first + s.position * (last - first)) ++ "%"
  "linear-gradient(" ++ Decimal.trimmed angle ++ "deg, " ++ String.intercalate ", " stops ++ ")"

def plainStops (g : Gradient) : String :=
  String.intercalate ", " (g.stops.map fun s =>
    s.color.rgba s.color.a ++ " " ++ Decimal.trimmed (s.position * 100.0) ++ "%")

def radialGradient (g : Gradient) : String := "radial-gradient(circle, " ++ plainStops g ++ ")"

def conicGradient (g : Gradient) : String :=
  "conic-gradient(from " ++ Decimal.trimmed ((gradientAngle? g).getD 0.0) ++ "deg, "
    ++ plainStops g ++ ")"

/-- CSS has no diamond gradients, so they are drawn as circles -/
def gradient (shape : GradientShape) (g : Gradient) : String :=
  match shape with
  | .linear => linearGradient g
  | .radial | .diamond => radialGradient g
  | .angular => conicGradient g

/-! ## fills -/

def fillKind? : PaintFill → Option FillKind
  | .solid color => some (.solid color)
  | .gradient shape g => some (.gradient (gradient shape g))
  | .image i => i.imageRef.map fun ref => .image ref i.scaleMode
  | .unsupported => none

def fillLayer? (p : Paint) : Option FillLayer := (fillKind? p.fill).map fun k => ⟨p.opacity, k⟩

def imageUse? (nodeId : String) (p : Paint) : Option ImageUse :=
  match p.fill with
  | .image i => i.imageRef.map fun ref => ⟨ref, nodeId, i.scaleMode⟩
  | _ => none

def backgroundSize : ScaleMode → String
  | .fit => "contain"
  | .tile => "auto"
  | .stretch => "100% 100%"
  | .fill | .crop | .other => "cover"

def imageFilter? (f : ImageFilters) : Option String :=
  let part := fun (name : String) (x : Float) =>
    if x == 0.0 then [] else [name ++ "(" ++ Decimal.trimmed (1.0 + x) ++ ")"]
  let parts := part "brightness" f.exposure ++ part "contrast" f.contrast
    ++ part "saturate" f.saturation
  if parts.isEmpty then none else some (String.intercalate " " parts)

def imageBackground (i : ImagePaint) : List Declaration :=
  (match i.imageRef with
    | some ref => [declare "background-image" ("url(" ++ ref ++ ")"),
        declare "background-size" (backgroundSize i.scaleMode)]
    | none => []) ++ declare? "filter" (i.filters.bind imageFilter?)

/-- the fills that are seen; those of vectors are drawn instead -/
def seenFills (n : NodeData) : List Paint :=
  if n.kind.isVector then [] else (n.paints?.map PaintStyle.visibleFills).getD []

def fillLayers (n : NodeData) : List FillLayer := (seenFills n).filterMap fillLayer?

def topImage? (n : NodeData) : Option ImageUse := (seenFills n).reverse.findSome? (imageUse? n.id)

def fills (vs : Variables) (n : NodeData) : List Declaration :=
  match seenFills n with
  | [] => []
  | p :: _ =>
    let property := if n.kind = .text then "color" else "background"
    match p.fill with
    | .solid c => [declare property (vs.bound n "fills" (c.rgba (c.a * p.opacity)))]
    | .gradient shape g => [declare property (gradient shape g)]
    | .image i => imageBackground i
    | .unsupported => []

/-! ## strokes -/

/-- a gradient stroke takes the color of its first stop -/
def strokeColor? (p : Paint) : Option String :=
  match p.fill with
  | .solid c => some (c.rgba (c.a * p.opacity))
  | .gradient _ g => g.stops.head?.map fun s => s.color.rgba s.color.a
  | _ => none

/-- the variable of the paint comes before that of the node -/
def strokeReference (vs : Variables) (n : NodeData) (p : Paint) (color : String) : String :=
  match p.colorVariable.orElse fun _ => n.boundVariableId? "strokes" with
  | some id => vs.reference id color
  | none => color

def positiveOr (default : Float) : Option Float → Float
  | some x => if 0.0 < x then x else default
  | none => default

def border (paints : PaintStyle) (color : String) : List Declaration :=
  let style := if paints.strokeDashes.isEmpty then "solid" else "dashed"
  match paints.sideWeights with
  | some w =>
    [declare "border-style" style, declare "border-color" color]
      ++ declareIf (0.0 < w.top) "border-top-width" (px w.top)
      ++ declareIf (0.0 < w.right) "border-right-width" (px w.right)
      ++ declareIf (0.0 < w.bottom) "border-bottom-width" (px w.bottom)
      ++ declareIf (0.0 < w.left) "border-left-width" (px w.left)
  | none =>
    [declare "border" (px (positiveOr 1.0 paints.strokeWeight) ++ " " ++ style ++ " " ++ color)]

def strokes (vs : Variables) (n : NodeData) : List Declaration :=
  if n.kind.isVector then []
  else
    match n.paints? with
    | none => []
    | some paints =>
      match paints.visibleStrokes with
      | [] => []
      | p :: _ => match strokeColor? p with
        | some color => border paints (strokeReference vs n p color)
        | none => []

/-! ## drawings -/

/-- the extent of a drawing without bounds -/
def defaultExtent : Rect := ⟨0.0, 0.0, 100.0, 100.0⟩

def drawing? (n : NodeData) : Option Drawing :=
  match n.payload with
  | .vector paints outline =>
    let strokes := paints.visibleStrokes
    let bounds := n.bounds.getD defaultExtent
    some {
      fillOutlines := outline.fills
      strokeOutlines := outline.strokes
      fills := paints.visibleFills
      strokes
      strokeWeight := if strokes.isEmpty then 0.0 else paints.strokeWeight.getD 1.0
      width := bounds.width
      height := bounds.height }
  | _ => none

/-! ## shadows and blurs -/

def shadowColor (e : Effect) : String := let c := e.color.getD {}; c.rgba c.a

def dropShadow (e : Effect) : String :=
  "drop-shadow("
    ++ String.intercalate " " [px e.offset.x, px e.offset.y, px e.radius, shadowColor e]
    ++ ")"

def boxShadow (e : Effect) : String :=
  String.intercalate " "
    [px e.offset.x, px e.offset.y, px e.radius, px e.spread, shadowColor e]

def boxShadow? (e : Effect) : Option String :=
  match e.kind with
  | .dropShadow => some (boxShadow e)
  | .innerShadow => some ("inset " ++ boxShadow e)
  | _ => none

def shadows (n : NodeData) (visible : List Effect) : List Declaration :=
  let drops := visible.filter fun e => e.kind = .dropShadow
  if n.hasImageFill && !drops.isEmpty then
    [declare "filter" (String.intercalate " " (drops.map dropShadow))]
  else
    let parts := visible.filterMap boxShadow?
    declareIf (!parts.isEmpty) "box-shadow" (String.intercalate ", " parts)

def blurText (e : Effect) : String := "blur(" ++ px e.radius ++ ")"

/-- a blur of the layer comes behind the filters that are there already -/
def blur (s : Styles) (e : Effect) : Styles :=
  if 0.0 < e.radius then
    match e.kind with
    | .layerBlur => s.put "filter" (match s.text? "filter" with
      | some filter => filter ++ " " ++ blurText e
      | none => blurText e)
    | .backgroundBlur => s.put "backdrop-filter" (blurText e)
    | _ => s
  else s

def effects (n : NodeData) (s : Styles) : Styles :=
  let visible := n.effects.filter Effect.visible
  visible.foldl blur (s.write (shadows n visible))

end Handoff.Styling
