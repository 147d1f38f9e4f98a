import Handoff.Asset
import Handoff.Json.Printer
import Handoff.Markup
import Handoff.Naming.Case
import Handoff.Styled.Node
import Handoff.Svg

/-!
# Attributes, classes and images of elements

What the assets have is shown; a drawing that they lack is made of its outlines, and anything else
is replaced by a placeholder.

* `dataAttributes`       the layer, the id and the component properties of a node;
* `visibilityClasses`    the classes that hide a node at the widths where it is not;
* `drawingDocument`, `imageUrl`   the document of a drawing and the address of an image.
-/

namespace Handoff

/-- the value of a component property; what cannot be written counts as a switch that is on -/
def propertyText : Json → String
  | .str s => if s = "" then "true" else s
  | .bool b => if b then "true" else "false"
  | .num n => (Json.num n).render
  | _ => "true"

/-- the name of the attribute for a key, unless the key has no letters -/
def dataKey? (key : String) : Option String :=
  let name := Naming.attributeName key
  if name = "" then none else some ("data-" ++ name)

def dataEntries (n : StyledData) : List (String × String) :=
  [("data-layer", Naming.shortLayer n.name), ("data-node-id", n.id)]
    ++ n.source.componentPropertyReferences.keys.filterMap (fun k =>
      (dataKey? k).map fun name => (name, "true"))
    ++ n.source.componentProperties.entries.filterMap fun e =>
      (dataKey? e.1).map fun name => (name, propertyText e.2.value)

/-- attributes of the same name count once, with the last value -/
def dataAttributes (n : StyledData) : Dict String := Dict.ofList (dataEntries n)

def dataMarkup (n : StyledData) : List Attribute :=
  (dataAttributes n).entries.map fun e => ⟨e.1, .text e.2⟩

def visibilityClasses (p : Presence) : List String :=
  match p.mobile, p.tablet, p.desktop with
  | true, true, true => []
  | true, false, false => ["md:hidden"]
  | false, true, false => ["hidden", "md:block", "lg:hidden"]
  | false, false, true => ["hidden", "lg:block"]
  | true, true, false => ["lg:hidden"]
  | false, true, true => ["hidden", "md:block"]
  | true, false, true => ["md:hidden", "lg:block"]
  | false, false, false => ["hidden"]

/-! ## images -/

def missingDrawing (nodeId : String) : String :=
  "SVG for node " ++ nodeId ++ " unavailable; placeholder used"

/-- the exported document, or one made of the outlines, or a placeholder with a warning -/
def drawingDocument (assets : Assets) (n : StyledData) : String × List String :=
  match assets.drawing? n.id, n.drawing with
  | some exported, _ => (exported, [])
  | none, some d => (d.document, [])
  | none, none => (Svg.placeholder n.extent.1 n.extent.2, [missingDrawing n.id])

/-- the nodes of a tree that are drawings -/
def drawnNodes (root : StyledNode) : List StyledData :=
  (root.emitted.filter StyledNode.isDrawn).map StyledNode.toStyledData

/-- the address of an image in a node -/
def imageUrl (assets : Assets) (n : StyledData) (ref : String) : String :=
  assets.imageOr ref n.extent.1 n.extent.2

/-- the mask of a node, if its image is known -/
def maskUrl? (assets : Assets) (n : StyledData) : Option String := n.maskImageRef.bind assets.image?

def cssUrl (url : String) : String := "url(" ++ url ++ ")"

def quotedCssUrl (url : String) : String := cssUrl ("'" ++ url ++ "'")

/-- whether layers behind a node have to follow its round corners -/
def hasRoundCorners (n : StyledData) : Bool :=
  match n.styles.text? "border-radius" with
  | some radius => radius ≠ "0px" && radius ≠ "0"
  | none => false

def hasImageLayer (n : StyledData) : Bool := n.fills.any fun l => l.imageRef?.isSome

/-- several fills, or an image behind children, take an element for each fill -/
def needsLayers (n : StyledNode) : Bool :=
  1 < n.fills.length || (hasImageLayer n.toStyledData && !n.children.isEmpty)

/-- the name of the element of a node that is no drawing -/
def elementTag (n : StyledData) : String :=
  match n.kind.tag with
  | .svg | .div => "div"
  | .span => "span"

end Handoff
