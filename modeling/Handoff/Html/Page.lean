import Handoff.ClassList.Basic
import Handoff.Generation.Attributes
import Handoff.Generation.Request
import Handoff.Style

/-!
# Pages

Every node that is rendered becomes one element with a class of its own, and the stylesheet has a
rule for this class.

* `Stylesheet`      rules for all widths and further ones that begin to hold at two of them;
* `Page.element?`   the element of a node with all that is inside of it;
* `Page.sheet`      the rules of a node and of all that is inside of it.
-/

namespace Handoff.Html

/-! ## stylesheets; rules without declarations are not written -/

structure StyleRule where
  selector : String
  styles : Styles
deriving Repr, Inhabited

structure Stylesheet where
  base : List StyleRule := []
  tablet : List StyleRule := []
  desktop : List StyleRule := []
deriving Repr, Inhabited

def tabletWidth : Nat := 768

def desktopWidth : Nat := 1024

def declarationText (d : Declaration) : String := d.1 ++ ": " ++ d.2.show ++ ";"

def StyleRule.render (indent : String) (r : StyleRule) : String :=
  indent ++ "." ++ r.selector ++ " \x7b\n"
    ++ String.intercalate "\n" (r.styles.entries.map fun d => indent ++ "  " ++ declarationText d)
    ++ "\n" ++ indent ++ "\x7d"

namespace Stylesheet

instance : EmptyCollection Stylesheet := ⟨{}⟩

instance : Append Stylesheet :=
  ⟨fun a b => ⟨a.base ++ b.base, a.tablet ++ b.tablet, a.desktop ++ b.desktop⟩⟩

/-- the rule for a class, unless it is empty -/
def rule (selector : String) (styles : Styles) : List StyleRule :=
  if styles.isEmpty then [] else [⟨selector, styles⟩]

/-- rules that begin to hold at some width -/
def mediaBlock (width : Nat) (rules : List StyleRule) : List String :=
  if rules.isEmpty then []
  else ["@media (min-width: " ++ toString width ++ "px) \x7b\n"
    ++ String.intercalate "\n\n" (rules.map (StyleRule.render "  ")) ++ "\n\x7d"]

/-- the definitions of the variables come first -/
def render (definitions : Option String) (s : Stylesheet) : String :=
  String.intercalate "\n\n" (definitions.toList ++ s.base.map (StyleRule.render "")
    ++ mediaBlock tabletWidth s.tablet ++ mediaBlock desktopWidth s.desktop)

end Stylesheet

/-! ## pages -/

/-- how a node is shown -/
inductive Form where
  | drawing
  | image (ref : String)
  | text
  | box (layered : Bool)
deriving DecidableEq, Repr

/-- an image alone is its own element -/
def soleImage? (n : StyledNode) : Option String :=
  match n.fills, n.children with
  | [layer], [] => layer.imageRef?
  | _, _ => none

def form (n : StyledNode) : Form :=
  if n.isDrawn then .drawing
  else match soleImage? n with
    | some ref => .image ref
    | none => if n.isText then .text else .box (needsLayers n)

/-- the class of a node -/
def className (n : StyledData) : String := Naming.kebab n.uniqueName

structure Page where
  request : Request
  assets : Assets

namespace Page

variable (p : Page)

/-! ## styles -/

def withoutImage (s : Styles) : Styles := (s.erase "background-image").erase "background-size"

/-- the styles of a node, apart from what its surroundings add -/
def formStyles (n : StyledNode) : Styles :=
  let styles := p.request.styles n.toStyledData
  match form n with
  | .drawing | .text | .box false => styles
  | .image _ => (withoutImage styles).write
      (declare? "object-fit" (n.image.map fun i => i.scaleMode.objectFit))
  | .box true => (withoutImage styles).putDefault "position" "relative"

/-- an image in the background is shown from its address -/
def withImage (n : StyledData) (s : Styles) : Styles :=
  match n.fills.findSome? FillLayer.imageRef? with
  | some ref =>
    if s.contains "background-image" then
      s.put "background-image" (cssUrl (imageUrl p.assets n ref))
    else s
  | none => s

/-- children overlap by a negative margin -/
def withOverlap (overlap : Option Overlap) (s : Styles) : Styles :=
  match overlap with
  | some ⟨value, .row⟩ => s.put "margin-right" (px value)
  | some ⟨value, .column⟩ => s.put "margin-bottom" (px value)
  | none => s

def maskDeclarations (lead url : String) : List Declaration := [
  declare (lead ++ "mask-image") (quotedCssUrl url), declare (lead ++ "mask-size") "contain",
  declare (lead ++ "mask-repeat") "no-repeat", declare (lead ++ "mask-position") "center"]

def withMask (n : StyledData) (s : Styles) : Styles :=
  match maskUrl? p.assets n with
  | some url => s.write (maskDeclarations "-webkit-" url ++ maskDeclarations "" url)
  | none => s

/-- whether a node begins or ceases to be shown at the three widths -/
def presenceChanges (presence : Presence) : Option Bool × Option Bool × Option Bool :=
  (if presence.mobile then none else some false,
    if presence.tablet = presence.mobile then none else some presence.tablet,
    if presence.desktop = presence.tablet then none else some presence.desktop)

def withDisplay (shownAs : String) (change : Option Bool) (s : Styles) : Styles :=
  match change with
  | some shown => s.put "display" (if shown then shownAs else "none")
  | none => s

def overlayStyles (styles : Option Styles) : Styles := Dict.merge ∅ (styles.getD ∅)

/-- the rules for the class of a node, where `styles` hold at all widths -/
def widthRules (n : StyledData) (styles : Styles) : Stylesheet :=
  let shownAs := (styles.text? "display").getD "block"
  let overlay := n.responsive.getD {}
  let (mobile, tablet, desktop) :=
    ((n.presence.filter Presence.isPartial).map presenceChanges).getD (none, none, none)
  let rule := Stylesheet.rule (className n)
  { base := rule (withDisplay shownAs mobile styles)
    tablet := rule (withDisplay shownAs tablet (overlayStyles overlay.md))
    desktop := rule (withDisplay shownAs desktop (overlayStyles overlay.lg)) }

def nodeStyles (overlap : Option Overlap) (n : StyledNode) : Styles :=
  p.withMask n.toStyledData (withOverlap overlap (p.withImage n.toStyledData (p.formStyles n)))

/-! ## layers -/

def layersClass (n : StyledData) : String := className n ++ "-fills"

/-- the class of a layer, counted from one -/
def layerClass (n : StyledData) (i : Nat) : String := className n ++ "-fill-" ++ toString (i + 1)

def fullBox : List Declaration := [declare "position" "absolute", declare "inset" "0"]

def layersStyles (n : StyledData) : Styles :=
  Styles.write ∅ (fullBox ++ [declare "pointer-events" "none"]
    ++ if hasRoundCorners n then [declare "overflow" "hidden", declare "border-radius" "inherit"]
      else [])

def layerDeclarations (layer : FillLayer) : List Declaration :=
  match layer.kind with
  | .image _ mode =>
    [declare "width" "100%", declare "height" "100%", declare "object-fit" mode.objectFit]
      ++ if layer.opacity < 1.0 then [("opacity", .num layer.opacity)] else []
  | .solid color => [declare "background-color" (color.rgba (color.a * layer.opacity))]
  | .gradient css => [declare "background-image" css]

def layerStyles (n : StyledData) (layer : FillLayer) : Styles :=
  Styles.write ∅ (fullBox ++ declareIf (hasRoundCorners n) "border-radius" "inherit"
    ++ layerDeclarations layer)

def layersSheet (n : StyledData) : Stylesheet where
  base := Stylesheet.rule (layersClass n) (layersStyles n)
    ++ n.fills.zipIdx.flatMap fun e => Stylesheet.rule (layerClass n e.2) (layerStyles n e.1)

def layerElement (n : StyledData) (layer : FillLayer) (i : Nat) : Element :=
  let cls : Attribute := ⟨"class", .verbatim (layerClass n i)⟩
  match layer.kind with
  | .image ref _ =>
    .closed "img" [cls, ⟨"alt", .text ""⟩, ⟨"src", .text (imageUrl p.assets n ref)⟩]
  | .solid _ | .gradient _ => .leaf "div" [cls] .empty

/-- the fills of a node, each as a layer, behind its children -/
def layersElement (n : StyledData) : Element :=
  .block "div" [⟨"class", .verbatim (layersClass n)⟩, ⟨"aria-hidden", .text "true"⟩]
    (n.fills.zipIdx.map fun e => p.layerElement n e.1 e.2)

/-! ## elements -/

/-- the class of a node, and those that rules give to it -/
def classMarkup (n : StyledData) : Attribute :=
  let extra := ((p.request.ruleClasses n).map ClassList.split).getD []
  ⟨"class", .verbatim (String.intercalate " " (className n :: extra))⟩

def imageMarkup (n : StyledData) (source : AttributeValue) : Element :=
  .closed "img" (p.classMarkup n :: dataMarkup n ++ [⟨"alt", .text n.name⟩, ⟨"src", source⟩])

def drawingSource (n : StyledData) : AttributeValue :=
  .verbatim (Escape.svgUrl (drawingDocument p.assets n).1)

/-- the element of a node around the elements of its children -/
def nodeElement (n : StyledNode) (children : List Element) : Element :=
  let d := n.toStyledData
  let attributes := p.classMarkup d :: dataMarkup d
  match form n with
  | .drawing => p.imageMarkup d (p.drawingSource d)
  | .image ref => p.imageMarkup d (.text (imageUrl p.assets d ref))
  | .text => .leaf (elementTag d) attributes (.text (d.characters?.getD ""))
  | .box true => .block (elementTag d) attributes (p.layersElement d :: children)
  | .box false =>
    if n.children.isEmpty then .leaf (elementTag d) attributes .empty
    else .block (elementTag d) attributes children

/-- the rules of a node around those of its children -/
def nodeSheet (overlap : Option Overlap) (n : StyledNode) (children : Stylesheet) : Stylesheet :=
  let own := widthRules n.toStyledData (p.nodeStyles overlap n)
  match form n with
  | .drawing | .image _ | .text => own
  | .box true => own ++ layersSheet n.toStyledData ++ children
  | .box false => own ++ children

mutual
def element? (n : StyledNode) : Option Element :=
  match n with
  | ⟨d, cs⟩ => if d.isRendered then some (p.nodeElement ⟨d, cs⟩ (elements cs)) else none
termination_by structural n

def elements (ns : List StyledNode) : List Element :=
  match ns with
  | [] => []
  | n :: ns => (element? n).toList ++ elements ns
termination_by structural ns
end

mutual
/-- `overlap` is how far the next sibling reaches over the node -/
def sheet (overlap : Option Overlap) (n : StyledNode) : Stylesheet :=
  match n with
  | ⟨d, cs⟩ =>
    if d.isRendered then p.nodeSheet overlap ⟨d, cs⟩ (sheets d.overlap cs) else ∅
termination_by structural n

/-- the rules of siblings; the last of them is not reached over -/
def sheets (overlap : Option Overlap) (ns : List StyledNode) : Stylesheet :=
  match ns with
  | [] => ∅
  | n :: ns => sheet (if ns.isEmpty then none else overlap) n ++ sheets overlap ns
termination_by structural ns
end

/-- the element of the whole tree -/
def root? : Option Element := p.element? p.request.root

def html : String :=
  Text.trimEndBy Chars.isBlank ((p.root?.map (Element.render 0)).getD "")

def css : String := (p.sheet none p.request.root).render p.request.rootVariables

def code : String := "<!-- HTML -->\n" ++ p.html ++ "\n\n/* CSS */\n" ++ p.css

def warnings : List String :=
  (drawnNodes p.request.root).flatMap fun n => (drawingDocument p.assets n).2

end Page
end Handoff.Html
