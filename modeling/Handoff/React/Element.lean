import Handoff.ClassList.Cleanup
import Handoff.ClassList.Modern
import Handoff.Generation.Attributes
import Handoff.React.Drawings
import Handoff.React.Props
import Handoff.Utility.Declaration

/-!
# Elements of components

Every node that is rendered becomes one element with its styles as classes; fills that need elements
of their own lie behind its children.

* `Renderer.element?`     the element of a node with all that is inside of it.
-/

namespace Handoff.React

structure Renderer where
  request : Request
  assets : Assets
  drawings : Drawings
  props : Props

namespace Renderer

variable (c : Renderer)

/-! ## class lists -/

/-- the classes as they are written -/
def classText (classes : List String) : String :=
  let final := ClassList.finalize c.request.options.spacingTolerance classes
  String.intercalate " "
    (if c.request.framework = .reactTailwindV4 then ClassList.modernize final else final)

def classMarkup (classes : List String) : List Attribute :=
  let text := c.classText classes
  if text = "" then [] else [⟨"className", .verbatim text⟩]

/-- the classes of the styles for one width -/
def widthClasses (width : String) (styles : Styles) : List String :=
  let grows := styles.is "flex-grow" "1"
  styles.entries.flatMap fun d =>
    if d.1 = "width" && d.2.show = "auto" && grows then [width ++ ":basis-0"]
    else (Utility.classesOf d.1 d.2.show).map fun cls => width ++ ":" ++ cls

def responsiveClasses (n : StyledData) : List String :=
  match n.responsive with
  | some r => ((r.md.map (widthClasses "md")).getD []) ++ ((r.lg.map (widthClasses "lg")).getD [])
  | none => []

/-- children overlap by a negative margin -/
def overlapClass (o : Overlap) : String :=
  (match o.direction with
    | .row => "mr"
    | .column => "mb") ++ "-[" ++ Decimal.trimmed o.value ++ "px]"

/-- a flex container that is shown again is a flex container -/
def shownAs (flex : Bool) (cls : String) : String :=
  if flex then Text.replaceAll ":block" ":flex" cls else cls

/-- classes of growth, which an overlay that ends it overrides -/
def isGrowth (cls : String) : Bool := ["grow", "basis-0", "flex-grow"].contains cls

/-- the classes that rules give; they stand behind those of the overlays -/
def ruleClassList (responsive : List String) (ruleClasses : String) : List String :=
  let resets := responsive.any (Text.endsWith ":grow-0")
  (ClassList.split ruleClasses).filter fun cls => !(resets && isGrowth cls)

/-- vectors in a box of fixed size are put in its middle -/
def centersVectors (n : StyledNode) (styles : Styles) : Bool :=
  n.children.any (fun child => child.drawing.isSome)
    && styles.contains "width" && styles.contains "height"
    && !Text.contains "flex" ((styles.text? "display").getD "")

/-- all classes of an element in the order in which they are considered -/
def elementClasses (overlap : Option Overlap) (n : StyledNode) (styles : Styles) : List String :=
  let flex := styles.is "display" "flex" || styles.is "display" "inline-flex"
  let responsive := responsiveClasses n.toStyledData
  ["box-border"]
    ++ (if !n.isText && !n.isAbsolute && !styles.contains "grid-area" then ["relative"] else [])
    ++ ["shrink-0"]
    ++ (overlap.map overlapClass).toList
    ++ (if centersVectors n styles then ["flex", "items-center", "justify-center"] else [])
    ++ Utility.ofStyles styles
    ++ responsive
    ++ ((n.presence.map visibilityClasses).getD []).map (shownAs flex)
    ++ ((c.request.ruleClasses n.toStyledData).map (ruleClassList responsive)).getD []

/-! ## images and masks -/

/-- a mask in front of a node -/
def maskMarkup (n : StyledData) : List Attribute :=
  match maskUrl? c.assets n with
  | some url =>
    let image := quotedCssUrl url
    [⟨"style", .styles [
      ("WebkitMaskImage", image), ("maskImage", image),
      ("WebkitMaskSize", "contain"), ("maskSize", "contain"),
      ("WebkitMaskRepeat", "no-repeat"), ("maskRepeat", "no-repeat"),
      ("WebkitMaskPosition", "center"), ("maskPosition", "center")]⟩]
  | none => []

def layerElement (n : StyledData) (corners : String) (layer : FillLayer) : Element :=
  let box := "absolute inset-0"
  match layer.kind with
  | .image ref mode => .closed "img" [⟨"alt", .text ""⟩,
      ⟨"className", .verbatim (box ++ " w-full h-full object-" ++ mode.objectFit ++ corners)⟩,
      ⟨"src", .text (imageUrl c.assets n ref)⟩]
  | .solid color => .closed "div" [⟨"className", .verbatim (box ++ corners)⟩,
      ⟨"style", .styles [("backgroundColor", color.rgba (color.a * layer.opacity))]⟩]
  | .gradient css => .closed "div" [⟨"className", .verbatim (box ++ corners)⟩,
      ⟨"style", .styles [("backgroundImage", css)]⟩]

/-- the fills of a node, each as a layer, behind its children -/
def layersElement (n : StyledData) : Element :=
  let (around, corners) :=
    if hasRoundCorners n then (" overflow-hidden rounded-[inherit]", " rounded-[inherit]")
    else ("", "")
  .block "div" [⟨"aria-hidden", .text "true"⟩,
      ⟨"className", .verbatim ("absolute inset-0 pointer-events-none" ++ around)⟩]
    (n.fills.map (c.layerElement n corners))

/-! ## drawings -/

/-- the styles that place a drawing -/
def placementKeys : List String := ["position", "top", "left", "right", "bottom", "grid-area",
  "margin-left", "margin-top", "margin-right", "margin-bottom", "opacity"]

/-- a side of a drawing is a share of the parent, or its own extent -/
def sideClasses (styles : Styles) (property utility : String) (extent : Float) : List String :=
  let own := if 0.0 < extent then [utility ++ "-[" ++ Decimal.plain extent.round ++ "px]"] else []
  match styles.text? property with
  | some value => if Text.contains "%" value then Utility.classesOf property value else own
  | none => own

def drawingClasses (n : StyledData) (styles : Styles) : List String :=
  ["block", "max-w-none"]
    ++ sideClasses styles "width" "w" n.extent.1 ++ sideClasses styles "height" "h" n.extent.2
    ++ placementKeys.flatMap (fun key =>
      ((styles.text? key).map (Utility.classesOf key)).getD [])
    ++ (n.presence.map visibilityClasses).getD []

def drawingSource (n : StyledData) : AttributeValue :=
  match c.drawings.sources.get? n.id with
  | some (.imported name) => .expression name
  | some (.address url) => .verbatim url
  | none => .verbatim (Escape.svgUrl (Svg.placeholder n.extent.1 n.extent.2))

/-- the description of an image: the name of its layer -/
def altMarkup (n : StyledData) (unnamed : String) : Attribute :=
  ⟨"alt", .text (if n.name = "" then unnamed else n.name)⟩

def drawingElement (n : StyledData) : Element :=
  .closed "img" (dataMarkup n ++ c.classMarkup (drawingClasses n (c.request.styles n))
    ++ [altMarkup n "svg", ⟨"src", c.drawingSource n⟩])

/-! ## elements -/

/-- images that are shown by elements are left out of the styles -/
def shownStyles (n : StyledNode) : Styles :=
  let styles := c.request.styles n.toStyledData
  match fillForm n with
  | .styled => styles
  | .layered | .image _ => (styles.erase "background-image").erase "background-size"

def textContent (n : StyledData) : Content :=
  match c.props.name? n.id .text with
  | some prop => .expression prop
  | none => .text (n.characters?.getD "")

def imageSource (n : StyledData) (ref : String) : AttributeValue :=
  match c.props.name? n.id .image with
  | some prop => .expression prop
  | none => .text (imageUrl c.assets n ref)

def imageElement (n : StyledData) (classes : List String) (ref : String) (mode : ScaleMode) :
    Element :=
  .closed "img" (dataMarkup n ++ c.classMarkup (classes ++ ["object-" ++ mode.objectFit])
    ++ [altMarkup n "image", ⟨"src", c.imageSource n ref⟩])

/-- an element around others; without any it is closed at once -/
def boxElement (n : StyledNode) (classes : List String) (children : List Element) : Element :=
  let attributes :=
    dataMarkup n.toStyledData ++ c.classMarkup classes ++ c.maskMarkup n.toStyledData
  match fillForm n with
  | .layered =>
    .block (elementTag n.toStyledData) attributes (c.layersElement n.toStyledData :: children)
  | _ =>
    if n.children.isEmpty then .closed (elementTag n.toStyledData) attributes
    else .block (elementTag n.toStyledData) attributes children

/-- the element of a node that is no drawing, around the elements of its children -/
def nodeElement (overlap : Option Overlap) (n : StyledNode) (children : List Element) : Element :=
  let classes := c.elementClasses overlap n (c.shownStyles n)
  if n.isText then
    .leaf (elementTag n.toStyledData) (dataMarkup n.toStyledData ++ c.classMarkup classes)
      (c.textContent n.toStyledData)
  else match fillForm n with
    | .image ⟨_, .image ref mode⟩ => c.imageElement n.toStyledData classes ref mode
    | _ => c.boxElement n classes children

mutual
/-- `overlap` is how far the next sibling reaches over the node -/
def element? (overlap : Option Overlap) (n : StyledNode) : Option Element :=
  match n with
  | ⟨d, cs⟩ =>
    if !d.isRendered then none
    else if StyledNode.isDrawn ⟨d, cs⟩ then some (c.drawingElement d)
    else some (c.nodeElement overlap ⟨d, cs⟩ (elements d.overlap cs))
termination_by structural n

/-- the elements of siblings; the last of them is not reached over -/
def elements (overlap : Option Overlap) (ns : List StyledNode) : List Element :=
  match ns with
  | [] => []
  | n :: ns =>
    (element? (if ns.isEmpty then none else overlap) n).toList ++ elements overlap ns
termination_by structural ns
end

end Renderer
end Handoff.React
