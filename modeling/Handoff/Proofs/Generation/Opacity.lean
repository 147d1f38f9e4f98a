import Handoff.Proofs.Generation.Masks
import Handoff.Proofs.Styling.Overlaid

/-!
# The opacity of fills

Fills are kept as layers, each with an opacity of its own.  A solid layer folds it into its color,
whatever the framework, and a page writes it down beside an image that is a layer.  Anywhere else it
gets lost: the code of a gradient, and of an image in a component or by itself, is the same for
every opacity.

* `StyledNode.fade`             a node with another opacity of its fills;
* `React.Renderer.tellsOpacity_layerElement`   what the elements of layers say about it;
* `Html.tellsOpacity_layerStyles`              what the rules of layers say about it;
* `opacity_kept`                the opacity of the fills in the code of a request;
* `opacity_of_image_layer`      an image that shows what is below it, but not in a component.
-/

namespace Handoff
open StyledNode

def FillLayer.fade (opacity : Float) (l : FillLayer) : FillLayer := { l with opacity }

theorem FillLayer.imageRef?_fade (opacity : Float) (l : FillLayer) :
    (l.fade opacity).imageRef? = l.imageRef? := rfl

/-- the same node with another opacity of all its fills -/
def StyledNode.fade (opacity : Float) (n : StyledNode) : StyledNode :=
  { n with fills := n.fills.map (FillLayer.fade opacity) }

theorem needsLayers_fade (opacity : Float) (n : StyledNode) :
    needsLayers (n.fade opacity) = needsLayers n := by
  unfold needsLayers hasImageLayer fade
  dsimp only
  rw [List.length_map, List.any_map]
  rfl

/-! ## components -/

namespace React

/-- the opacity of an image by itself does not change what it is -/
theorem fillForm_fade {n : StyledNode} {layer : FillLayer} (h : fillForm n = .image layer)
    (opacity : Float) : fillForm (n.fade opacity) = .image (layer.fade opacity) := by
  obtain ⟨fills, image, leaf⟩ := of_fillForm_image h
  unfold fillForm at h ⊢
  rw [needsLayers_fade]
  split at h
  · cases h
  · have faded : (n.fade opacity).fills = [layer.fade opacity] :=
      congrArg (List.map (FillLayer.fade opacity)) fills
    have none : (n.fade opacity).children = [] := leaf
    rw [if_neg ‹_›, faded, none]
    dsimp only
    rw [FillLayer.imageRef?_fade, image]
    rfl

namespace Renderer
variable (c : Renderer)

/-- the element of a layer says the opacity of a color, and no other -/
def TellsOpacity (n : StyledData) (corners : String) (layer : FillLayer) (e : Element) : Prop :=
  match layer.kind with
  | .solid color => e.style? "backgroundColor" = some (color.rgba (color.a * layer.opacity))
  | .gradient _ | .image .. => ∀ opacity, c.layerElement n corners (layer.fade opacity) = e

theorem tellsOpacity_layerElement (n : StyledData) (corners : String) (layer : FillLayer) :
    c.TellsOpacity n corners layer (c.layerElement n corners layer) := by
  obtain ⟨opacity, kind⟩ := layer
  cases kind with
  | solid color => rfl
  | gradient _ | image _ _ => exact fun _ => rfl

/-- an image by itself is the same element for every opacity -/
theorem nodeElement_fade {n : StyledNode} {layer : FillLayer} (h : fillForm n = .image layer)
    (opacity : Float) (overlap : Option Overlap) (es : List Element) :
    c.nodeElement overlap (n.fade opacity) es = c.nodeElement overlap n es := by
  have faded := fillForm_fade h opacity
  have styles : c.shownStyles (n.fade opacity) = c.shownStyles n := by
    unfold shownStyles
    rw [h, faded]
    rfl
  have classes (s : Styles) :
      c.elementClasses overlap (n.fade opacity) s = c.elementClasses overlap n s := rfl
  have image := (of_fillForm_image h).2.1
  obtain ⟨own, kind⟩ := layer
  unfold nodeElement
  rw [styles, classes, h, faded]
  cases kind with
  | solid _ | gradient _ => cases image
  | image _ _ => rfl

end Renderer
end React

/-! ## pages -/

namespace Html
open Page (layerClass layerStyles layerDeclarations)

theorem soleImage?_fade (opacity : Float) (n : StyledNode) :
    soleImage? (n.fade opacity) = soleImage? n := by
  unfold soleImage? fade
  dsimp only
  cases n.fills with
  | nil => rfl
  | cons layer rest =>
    cases rest with
    | nil => cases n.children <;> rfl
    | cons _ _ => rfl

theorem form_fade (opacity : Float) (n : StyledNode) : form (n.fade opacity) = form n := by
  have drawn : (n.fade opacity).isDrawn = n.isDrawn := rfl
  unfold form
  rw [drawn, soleImage?_fade, needsLayers_fade]
  rfl

/-- the rule of a layer says the opacity of a color or of an image, and no other -/
def TellsOpacity (n : StyledData) (layer : FillLayer) (s : Styles) : Prop :=
  match layer.kind with
  | .solid color =>
    s.get? "background-color" = some (.text (color.rgba (color.a * layer.opacity)))
  | .image .. => s.get? "opacity" = if layer.opacity < 1.0 then some (.num layer.opacity) else none
  | .gradient _ => ∀ opacity, layerStyles n (layer.fade opacity) = s

theorem get?_layerStyles (n : StyledData) (layer : FillLayer) {key : String}
    (other : key ∉ ["position", "inset", "border-radius"]) :
    (layerStyles n layer).get? key = (Styles.write ∅ (layerDeclarations layer)).get? key := by
  have box : Styling.Keyed ["position", "inset", "border-radius"] (Page.fullBox
      ++ declareIf (hasRoundCorners n) "border-radius" "inherit") :=
    .append (Styling.keyed_cons (by decide) (Styling.keyed_cons (by decide) Styling.keyed_nil))
      (Styling.keyed_declareIf (by decide) _)
  have none : (Page.fullBox ++ declareIf (hasRoundCorners n) "border-radius" "inherit").filter
      (fun d => d.1 = key) = [] :=
    List.filter_eq_nil_iff.mpr fun d hd same => other (of_decide_eq_true same ▸ box d hd)
  unfold layerStyles Styles.write
  rw [Dict.get?_setAll, Dict.get?_setAll, List.filter_append, none, List.nil_append]

theorem tellsOpacity_layerStyles (n : StyledData) (layer : FillLayer) :
    TellsOpacity n layer (layerStyles n layer) := by
  obtain ⟨opacity, kind⟩ := layer
  cases kind with
  | gradient _ => exact fun _ => rfl
  | solid color => exact get?_layerStyles n ⟨opacity, .solid color⟩ (by decide)
  | image ref mode =>
    refine (get?_layerStyles n ⟨opacity, .image ref mode⟩ (by decide)).trans ?_
    unfold layerDeclarations
    dsimp only
    split <;> rfl

namespace Page
variable (p : Page)

theorem withImage_fade (opacity : Float) (n : StyledNode) (s : Styles) :
    p.withImage (n.fade opacity).toStyledData s = p.withImage n.toStyledData s := by
  have same : (n.fade opacity).fills.findSome? FillLayer.imageRef?
      = n.fills.findSome? FillLayer.imageRef? := List.findSome?_map
  unfold withImage
  rw [same]
  rfl

theorem nodeStyles_fade (opacity : Float) (overlap : Option Overlap) (n : StyledNode) :
    p.nodeStyles overlap (n.fade opacity) = p.nodeStyles overlap n := by
  have form : p.formStyles (n.fade opacity) = p.formStyles n := by
    unfold formStyles
    rw [form_fade]
    rfl
  unfold nodeStyles
  rw [withImage_fade, form]
  rfl

theorem elementOf_fade {n : StyledNode} {ref : String} (h : form n = .image ref) (opacity : Float) :
    p.elementOf (n.fade opacity) = p.elementOf n := by
  unfold elementOf nodeElement
  rw [form_fade, h]
  rfl

end Page
end Html

namespace Html.Page
variable (p : Page)

theorem mem_layerElement (n : StyledData) (layer : FillLayer) (i : Nat) :
    ⟨"class", .verbatim (layerClass n i)⟩ ∈ (p.layerElement n layer i).attributes := by
  unfold layerElement
  cases layer.kind <;> exact List.mem_cons_self

/-- a page has a rule for every layer -/
theorem base_nodeSheet {n : StyledNode} (h : form n = .box true) (overlap : Option Overlap)
    (inner : Stylesheet) {entry : FillLayer × Nat} (there : entry ∈ n.fills.zipIdx) :
    ⟨layerClass n.toStyledData entry.2, layerStyles n.toStyledData entry.1⟩
      ∈ (p.nodeSheet overlap n inner).base := by
  have position : (layerStyles n.toStyledData entry.1).get? "position"
      = some (.text "absolute") := by
    obtain ⟨⟨opacity, kind⟩, i⟩ := entry
    unfold layerStyles layerDeclarations
    cases hasRoundCorners n.toStyledData <;> cases kind <;> dsimp only <;> (try split) <;> rfl
  have filled : (layerStyles n.toStyledData entry.1).isEmpty = false :=
    List.isEmpty_eq_false_iff.mpr (List.ne_nil_of_mem (Dict.mem_entries_iff.mpr position))
  have rule : ⟨layerClass n.toStyledData entry.2, layerStyles n.toStyledData entry.1⟩ ∈
      Stylesheet.rule (layerClass n.toStyledData entry.2) (layerStyles n.toStyledData entry.1) := by
    rw [Stylesheet.rule, filled]
    exact List.mem_singleton_self _
  unfold nodeSheet
  rw [h]
  exact List.mem_append_left _ (List.mem_append_right _ (List.mem_append_right _
    (List.mem_flatMap.mpr ⟨entry, there, rule⟩)))

end Html.Page

/-! ## opacity in the code of a request -/

namespace React.Renderer

/-- the opacity of colors is told, each in the layer of its own -/
def TellsOpacities (c : Renderer) (n : StyledNode) (e : Element) : Prop :=
  match fillForm n with
  | .layered => ∃ tag own around corners layers inner,
      e = .block tag own (.block "div" around layers :: inner)
        ∧ List.Forall₂ (c.TellsOpacity n.toStyledData corners) n.fills layers
  | .image _ => ∃ overlap, e = c.nodeElement overlap n []
      ∧ ∀ opacity, c.nodeElement overlap (n.fade opacity) [] = e
  | .styled => True

theorem tellsOpacities_of_makes (c : Renderer) {n : StyledNode} {e : Element}
    (box : (n.isDrawn || n.isText) = false) (h : c.Makes n e) : c.TellsOpacities n e := by
  obtain ⟨plain, text⟩ := Bool.or_eq_false_iff.mp box
  unfold TellsOpacities
  obtain ⟨overlap, rfl⟩ := h.exists_overlap c plain
  cases form : fillForm n with
  | styled => trivial
  | layered =>
    have layers : ∃ around corners layers,
        c.layersElement n.toStyledData = .block "div" around layers ∧ List.Forall₂ (c.TellsOpacity n.toStyledData corners) n.fills layers := by
      unfold layersElement
      split
      next around corners _ =>
        exact ⟨_, corners, _, rfl, List.forall₂_map_right_iff.mpr
          (List.forall₂_same.mpr fun layer _ => c.tellsOpacity_layerElement _ corners layer)⟩
    obtain ⟨around, corners, layers, e, told⟩ := layers
    rw [c.nodeElement_layered text form, e]
    exact ⟨_, _, around, corners, layers, _, rfl, told⟩
  | image layer =>
    have leaf := (of_fillForm_image form).2.2
    refine ⟨overlap, ?_, fun opacity => ?_⟩
    · rw [leaf]
      rfl
    · rw [leaf]
      exact c.nodeElement_fade form opacity overlap []

end React.Renderer

namespace Html.Page

/-- the opacity of colors and of images is told, each in the layer of its own -/
def TellsOpacities (p : Page) (n : StyledNode) (e : Element) : Prop :=
  match form n with
  | .box true => ∃ tag own around layers inner,
      e = .block tag own (.block "div" around layers :: inner)
        ∧ List.Forall₂ (fun entry l =>
            ⟨"class", .verbatim (layerClass n.toStyledData entry.2)⟩ ∈ l.attributes ∧ ∃ rule ∈ (p.sheet none p.request.root).base,
              rule.selector = layerClass n.toStyledData entry.2
                ∧ TellsOpacity n.toStyledData entry.1 rule.styles)
          n.fills.zipIdx layers
  | .image _ => (∀ opacity, p.elementOf (n.fade opacity) = e)
      ∧ ∃ overlap, (widthRules n.toStyledData (p.nodeStyles overlap n)).Part
          (p.sheet none p.request.root)
        ∧ ∀ opacity, p.nodeStyles overlap (n.fade opacity) = p.nodeStyles overlap n
  | .drawing | .text | .box false => True

theorem tellsOpacities_elementOf (p : Page) {n : StyledNode} (hn : n ∈ p.request.root.written) :
    p.TellsOpacities n (p.elementOf n) := by
  unfold TellsOpacities
  cases shape : form n with
  | drawing => trivial
  | text => trivial
  | image ref =>
    obtain ⟨overlap, rules⟩ := p.exists_rules p.request.root none n hn
    exact ⟨p.elementOf_fade shape, overlap, rules,
      fun opacity => p.nodeStyles_fade opacity overlap n⟩
  | box layered =>
    cases layered with
    | false => trivial
    | true =>
      rw [← map_snd_overlapped p.request.root none] at hn
      obtain ⟨⟨overlap, m⟩, hm, rfl⟩ := List.mem_map.mp hn
      obtain ⟨inner, part⟩ := p.exists_nodeSheet p.request.root none _ hm
      rw [p.elementOf_layered shape]
      refine ⟨_, _, _, _, _, rfl,
        List.forall₂_map_right_iff.mpr (List.forall₂_same.mpr fun entry there => ⟨?_, ?_⟩)⟩
      · exact p.mem_layerElement _ entry.1 entry.2
      · refine ⟨_, part.base (p.base_nodeSheet shape overlap inner there), rfl, ?_⟩
        exact tellsOpacity_layerStyles m.toStyledData entry.1

end Html.Page

namespace Request

/-- what the code of a node says about the opacity of its fills -/
def TellsOpacities (r : Request) (assets : Assets) (n : StyledNode) (e : Element) : Prop :=
  match r.framework with
  | .reactTailwind | .reactTailwindV4 =>
    (n.isDrawn || n.isText) = false → (React.renderer r assets).TellsOpacities n e
  | .htmlCss => (⟨r, assets⟩ : Html.Page).TellsOpacities n e

/-- **The opacity of colors is kept, that of other fills where a page has layers.**  In the code of
a tree that was made from a well-formed design, for every framework, rules, options and assets, a
node that is written has the visible fills of its design node that can be shown, each with its
opacity.  If they need elements of their own, the element of the node holds one for each of them, in
order:

* a color is multiplied with its opacity, in the style of its element or in the rule for its class;
* an image in a page has its opacity in the rule for its class if it is below one;
* a gradient, and an image in a component, is the same element, with the same rule, for every
  opacity.

Where a single image is the element of a node, this and its rules are the same for every opacity. -/
theorem opacity_kept (s : Session) {design : DesignNode} (proper : design.WellFormed) (r : Request)
    (h : s.Yields design r.root) (assets : Assets) :
    List.Forall₂ (fun n e => dataOf e.attributes = dataMarkup n.toStyledData
        ∧ n.fills = Styling.fillLayers n.source ∧ r.TellsOpacities assets n e)
      r.root.written (nodeElements (r.rootElement? assets).toList) := by
  refine ((List.forall₂_and_left _ _).mpr
    ⟨fun _ hn => hn, r.makes_rootElement? assets⟩).imp ?_
  rintro n e ⟨hn, made⟩
  refine ⟨dataOf_of_makes made, ?_, ?_⟩
  · have there := (written_sublist r.root).subset hn
    exact Styling.fills_of_yields proper h n there
  · unfold Makes at made
    unfold TellsOpacities
    cases framework : r.framework with
    | htmlCss =>
      rw [framework] at made
      obtain rfl := made
      exact Html.Page.tellsOpacities_elementOf ⟨r, assets⟩ hn
    | reactTailwind | reactTailwindV4 =>
      rw [framework] at made
      exact fun box => (React.renderer r assets).tellsOpacities_of_makes box made

/-- a card with a color below an image, both of which let through half of what is below them -/
theorem opacity_kept_card :
    let red : Paint := { fill := .solid ⟨1.0, 0.0, 0.0, 1.0⟩, opacity := 0.5 }
    let photo : Paint := { fill := .image { imageRef := some "ref" }, opacity := 0.5 }
    let card : DesignNode := ⟨{
      id := "1", name := "Card", kind := .frame
      payload := .container { paints := { fills := [red, photo] } } }, []⟩
    ∃ tree, ({} : Session).Yields card tree ∧
      (tree.written.map fun n => n.fills.map fun l => (l.imageRef?, l.opacity == 0.5))
        = [[(none, true), (some "ref", true)]] ∧
      ∀ framework, let r : Request := { root := tree, framework }
        List.Forall₂ (fun n e => n.fills = Styling.fillLayers n.source ∧ r.TellsOpacities {} n e)
          r.root.written (nodeElements (r.rootElement? {}).toList) := by
  intro red photo card
  have styled : (({} : Session).style card).1.map (fun tree =>
      tree.written.map fun n => n.fills.map fun l => (l.imageRef?, l.opacity == 0.5))
        = some [[(none, true), (some "ref", true)]] := by decide
  obtain ⟨tree, h, fills⟩ := Option.map_eq_some_iff.mp styled
  have yields : ({} : Session).Yields card tree := .styled h
  exact ⟨tree, yields, fills, fun framework =>
    (opacity_kept {} (by decide) { root := tree, framework } yields {}).imp fun _ _ told => told.2⟩

/-- an image on a color, through which half of the color is to be seen: its layer in a component
does not say so -/
theorem opacity_of_image_layer :
    let red : Paint := { fill := .solid ⟨1.0, 0.0, 0.0, 1.0⟩ }
    let photo : Paint := { fill := .image { imageRef := some "ref" }, opacity := 0.5 }
    let card : DesignNode := ⟨{
      id := "1", name := "Card", kind := .frame
      payload := .container { paints := { fills := [red, photo] } } }, []⟩
    card.WellFormed ∧ ∃ tree, (({} : Session).style card).1 = some tree ∧
      let r : Request := { root := tree, framework := .reactTailwind }
      (r.root.written.map fun n => n.fills.map fun l => (l.imageRef?, l.opacity == 0.5))
        = [[(none, false), (some "ref", true)]] ∧
      ((Element.preOrderAll (r.rootElement? {}).toList).getLast?.map fun e =>
          [some e.tag, e.className?, e.style? "opacity"])
        = some [some "img", some "absolute inset-0 w-full h-full object-cover", none] := by
  intro red photo card
  have proper : card.WellFormed := by decide
  have styled : (({} : Session).style card).1.map (fun tree =>
      (tree.written.map fun n => n.fills.map fun l => (l.imageRef?, l.opacity == 0.5),
        (Element.preOrderAll (({ root := tree, framework := .reactTailwind } : Request).rootElement?
          {}).toList).getLast?.map fun e => [some e.tag, e.className?, e.style? "opacity"]))
        = some ([[(none, false), (some "ref", true)]],
          some [some "img", some "absolute inset-0 w-full h-full object-cover", none]) := by
    decide
  obtain ⟨tree, h, found⟩ := Option.map_eq_some_iff.mp styled
  exact ⟨proper, tree, h, Prod.mk.inj found⟩

end Request
end Handoff
