import Handoff.Styled.Node

/-!
# Drawings as documents

A vector is written as an SVG document of its outlines, each with the paint of the same number, or
else with the first paint.  Only plain colors are drawn.

* `Drawing.document`     the document of a drawing;
* `Svg.placeholder`      a grey box in the place of a drawing.
-/

namespace Handoff

namespace Svg

def namespaceName : String := "http://www.w3.org/2000/svg"

/-- the color of a paint, if it has a single one -/
def color? (p : Paint) : Option String :=
  match p.fill with
  | .solid c => some (c.css (c.a * p.opacity))
  | _ => none

/-- the paint for the outline of some number -/
def paintAt? (paints : List Paint) (i : Nat) : Option Paint :=
  (paints[i]?).orElse fun _ => paints.head?

def fillRule (o : OutlinePath) : String :=
  match o.windingRule with
  | .evenodd => "evenodd"
  | .nonzero | .other => "nonzero"

def fillPath (o : OutlinePath) (color : String) : String :=
  "<path d=\"" ++ o.path ++ "\" fill=\"" ++ color ++ "\" fill-rule=\"" ++ fillRule o ++ "\" />"

def strokePath (weight : Float) (o : OutlinePath) (color : String) : String :=
  "<path d=\"" ++ o.path ++ "\" stroke=\"" ++ color ++ "\" stroke-width=\""
    ++ Decimal.trimmed weight ++ "\" fill=\"none\" />"

/-- the outlines that have a color -/
def paths (draw : OutlinePath → String → String) (outlines : List OutlinePath)
    (paints : List Paint) : String :=
  String.join (outlines.zipIdx.filterMap fun e =>
    ((paintAt? paints e.2).bind color?).map (draw e.1))

/-- the beginning of a document up to its attributes of color -/
def opening (width height : Float) : String :=
  let w := Decimal.trimmed width
  let h := Decimal.trimmed height
  "<svg width=\"" ++ w ++ "\" height=\"" ++ h ++ "\" viewBox=\"0 0 " ++ w ++ " " ++ h ++ "\""

/-- a number that is at least one; what is not a number counts as one -/
def atLeastOne (x : Float) : Float := if 1.0 < x then x else 1.0

def placeholder (width height : Float) : String :=
  let width := (atLeastOne width).round
  let height := (atLeastOne height).round
  opening width height ++ " xmlns=\"" ++ namespaceName ++ "\"><rect width=\""
    ++ Decimal.trimmed width ++ "\" height=\"" ++ Decimal.trimmed height
    ++ "\" fill=\"#e5e7eb\" /></svg>"

end Svg

def Drawing.document (d : Drawing) : String :=
  let weight := if 0.0 < d.strokeWeight then d.strokeWeight else 1.0
  Svg.opening d.width.round d.height.round
    ++ " fill=\"none\" xmlns=\"" ++ Svg.namespaceName ++ "\">"
    ++ Svg.paths Svg.fillPath d.fillOutlines d.fills
    ++ Svg.paths (Svg.strokePath weight) d.strokeOutlines d.strokes ++ "</svg>"

end Handoff
