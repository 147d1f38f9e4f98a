import Handoff.Proofs.Generation.Elements
import Handoff.Proofs.Html.Stylesheet
import Handoff.Proofs.Styled.Shown
import Handoff.Styling.Session

/-!
# Masks in generated code

A mask cuts out what lies behind it, so every sibling behind a mask carries the mask's image.  A page
writes it into the rule of the node, whatever the node is.  In a component it is a style of the
element, but only where this is an element around others.

* `Element.style?`        what the style of an element says;
* `React.bearsMask`       the nodes whose elements say a mask;
* `style?_of_makes`       what the element of a node says about its mask;
* `Page.exists_maskRule`  the rule of a node says its mask;
* `masked_elements`       masks in the code of a request;
* `masked_text_shown`     a text behind a mask, which a component shows in full.
-/

namespace Handoff
open StyledNode

/-- the properties that a mask is said by, for both spellings of style objects -/
def maskStyles : List String := ["WebkitMaskImage", "maskImage"]

/-- the properties that a mask is said by in rules -/
def maskProperties : List String := ["-webkit-mask-image", "mask-image"]

/-- what the style attribute of an element says about a property -/
def Attribute.style? (key : String) (a : Attribute) : Option String :=
  match a.value with
  | .styles entries => if a.name = "style" then entries.lookup key else none
  | _ => none

def stylesIn? (key : String) (as : List Attribute) : Option String :=
  as.findSome? (Attribute.style? key)

def Element.style? (key : String) (e : Element) : Option String := stylesIn? key e.attributes

theorem stylesIn?_append (key : String) (as bs : List Attribute) :
    stylesIn? key (as ++ bs) = (stylesIn? key as).or (stylesIn? key bs) :=
  List.findSome?_append

theorem stylesIn?_dataMarkup (key : String) (n : StyledData) :
    stylesIn? key (dataMarkup n) = none := by
  rw [stylesIn?, List.findSome?_eq_none_iff]
  intro a ha
  obtain ⟨e, _, rfl⟩ := List.mem_map.mp ha
  rfl

namespace React

/-- only elements around others say a mask: no drawing, no text and no image -/
def bearsMask (n : StyledNode) : Bool :=
  !n.isDrawn && !n.isText && match fillForm n with
    | .image _ => false
    | .styled | .layered => true

namespace Renderer
variable (c : Renderer)

theorem stylesIn?_classMarkup (key : String) (classes : List String) :
    stylesIn? key (c.classMarkup classes) = none := by
  unfold classMarkup
  dsimp only
  split <;> rfl

theorem stylesIn?_maskMarkup {key : String} (hkey : key ∈ maskStyles) (n : StyledData) :
    stylesIn? key (c.maskMarkup n) = (maskUrl? c.assets n).map quotedCssUrl := by
  unfold maskMarkup
  cases maskUrl? c.assets n with
  | none => rfl
  | some url =>
    rcases List.mem_cons.mp hkey with rfl | hkey
    · rfl
    · obtain rfl := List.mem_singleton.mp hkey
      rfl

theorem stylesIn?_boxElement {key : String} (hkey : key ∈ maskStyles) (n : StyledNode)
    (classes : List String) (es : List Element) :
    (c.boxElement n classes es).style? key
      = (maskUrl? c.assets n.toStyledData).map quotedCssUrl := by
  have own : stylesIn? key (dataMarkup n.toStyledData ++ c.classMarkup classes
      ++ c.maskMarkup n.toStyledData) = (maskUrl? c.assets n.toStyledData).map quotedCssUrl := by
    rw [stylesIn?_append, stylesIn?_append, stylesIn?_dataMarkup, stylesIn?_classMarkup,
      stylesIn?_maskMarkup c hkey, Option.none_or, Option.none_or]
  unfold boxElement
  dsimp only
  split
  · exact own
  · split <;> exact own

theorem stylesIn?_pictureMarkup (key : String) (n : StyledData) (classes : List String)
    (unnamed : String) {source : AttributeValue} (plain : ∀ entries, source ≠ .styles entries) :
    stylesIn? key (dataMarkup n ++ c.classMarkup classes ++ [altMarkup n unnamed, ⟨"src", source⟩])
      = none := by
  have picture : stylesIn? key [altMarkup n unnamed, ⟨"src", source⟩] = none := by
    cases source with
    | styles entries => exact absurd rfl (plain entries)
    | text _ | verbatim _ | expression _ => rfl
  rw [stylesIn?_append, stylesIn?_append, stylesIn?_dataMarkup, stylesIn?_classMarkup, picture]
  rfl

/-- the element of a node says its mask if it is one around others -/
theorem style?_of_makes {key : String} (hkey : key ∈ maskStyles) {n : StyledNode} {e : Element}
    (h : c.Makes n e) :
    e.style? key =
      if bearsMask n then (maskUrl? c.assets n.toStyledData).map quotedCssUrl else none := by
  unfold bearsMask
  cases h with
  | drawing drawn =>
    rw [drawn]
    refine c.stylesIn?_pictureMarkup key _ _ _ fun entries => ?_
    unfold drawingSource
    split <;> exact fun h => nomatch h
  | node plain overlap =>
    rw [plain]
    unfold nodeElement
    dsimp only
    cases n.isText with
    | true =>
      show stylesIn? key (dataMarkup n.toStyledData ++ c.classMarkup _) = none
      rw [stylesIn?_append, stylesIn?_dataMarkup, stylesIn?_classMarkup]
      rfl
    | false =>
      rw [if_neg Bool.false_ne_true]
      cases form : fillForm n with
      | styled | layered => exact c.stylesIn?_boxElement hkey n _ _
      | image layer =>
        have ref := (of_fillForm_image form).2.1
        obtain ⟨opacity, kind⟩ := layer
        cases kind with
        | solid _ | gradient _ => cases ref
        | image ref mode =>
          refine c.stylesIn?_pictureMarkup key _ _ _ fun entries => ?_
          unfold imageSource
          split <;> exact fun h => nomatch h

/-- a known mask is said by both properties or by none -/
theorem style?_of_masked {n : StyledNode} {e : Element} (h : c.Makes n e) {url : String}
    (known : maskUrl? c.assets n.toStyledData = some url) :
    (∀ key ∈ maskStyles, e.style? key = some (quotedCssUrl url)) ↔ bearsMask n = true := by
  have each (key : String) (hkey : key ∈ maskStyles) :
      e.style? key = if bearsMask n then some (quotedCssUrl url) else none := by
    rw [c.style?_of_makes hkey h, known, Option.map_some]
  constructor
  · intro all
    have one := (each "maskImage" (by decide)).symm.trans (all "maskImage" (by decide))
    cases bears : bearsMask n with
    | true => rfl
    | false =>
      rw [bears] at one
      cases one
  · intro bears key hkey
    rw [each key hkey, if_pos bears]

end Renderer
end React

/-! ## rules -/

namespace Html.Page
variable (p : Page)

theorem get?_nodeStyles_mask {n : StyledNode} {url : String}
    (h : maskUrl? p.assets n.toStyledData = some url) {property : String}
    (hp : property ∈ maskProperties) (overlap : Option Overlap) :
    (p.nodeStyles overlap n).get? property = some (.text (quotedCssUrl url)) := by
  unfold nodeStyles withMask
  rw [h]
  dsimp only
  rw [Styles.write, Dict.get?_setAll]
  rcases List.mem_cons.mp hp with rfl | hp
  · rfl
  · obtain rfl := List.mem_singleton.mp hp
    rfl

/-- the rule of a node that is written says its mask -/
theorem exists_maskRule {n : StyledNode} (hn : n ∈ p.request.root.written) {url : String}
    (h : maskUrl? p.assets n.toStyledData = some url) :
    ∃ rule ∈ (p.sheet none p.request.root).base, rule.selector = className n.toStyledData ∧
      ∀ property ∈ maskProperties,
        rule.styles.get? property = some (.text (quotedCssUrl url)) := by
  obtain ⟨overlap, rules⟩ := p.exists_rules p.request.root none n hn
  have declared (property : String) (hp : property ∈ maskProperties) :=
    p.get?_nodeStyles_mask h hp overlap
  have other : ∀ property ∈ maskProperties, property ≠ "display" := by decide
  obtain ⟨own, mem, same⟩ :=
    exists_ownRule n.toStyledData (other "mask-image" (by decide)) (declared "mask-image" (by decide))
  refine ⟨_, rules.base mem, rfl, fun property hp => ?_⟩
  rw [same property (other property hp), declared property hp]

end Html.Page

/-! ## masks in the code of a request -/

namespace Request

/-- the mask of a node is said: by its own element in a component, by its own rule in a page -/
def SaysMask (r : Request) (assets : Assets) (n : StyledNode) (e : Element) (url : String) : Prop :=
  match r.framework with
  | .reactTailwind | .reactTailwindV4 =>
    ∀ key ∈ maskStyles, e.style? key = some (quotedCssUrl url)
  | .htmlCss =>
    ∃ rule ∈ ((⟨r, assets⟩ : Html.Page).sheet none r.root).base,
      rule.selector = Html.className n.toStyledData ∧
        ∀ property ∈ maskProperties,
          rule.styles.get? property = some (.text (quotedCssUrl url))

/-- **Pages say all masks, and components those of elements around others.**  For every tree,
framework and assets there is one element for each node that is written, with the data of this node;
and if the image of its mask is known, then

* in a page the rule of the node says the mask, whatever the node is;
* in a component its element says the mask if and only if the node is no drawing, no text and no
  image that is an element by itself.

Where nothing is below a text, the nodes that are written are those that are rendered, with nothing
above them that is hidden or a drawing. -/
theorem masked_elements (r : Request) (assets : Assets) :
    List.Forall₂ (fun n e => dataOf e.attributes = dataMarkup n.toStyledData ∧
        ∀ url, maskUrl? assets n.toStyledData = some url →
          (r.SaysMask assets n e url ↔ r.framework = .htmlCss ∨ React.bearsMask n = true))
        r.root.written (nodeElements (r.rootElement? assets).toList) ∧
      ((∀ m ∈ r.root.preOrder, m.isText = true → m.children = []) →
        r.root.written = r.root.shown) := by
  constructor
  · refine ((List.forall₂_and_left _ _).mpr
      ⟨fun _ h => h, r.makes_rootElement? assets⟩).imp ?_
    rintro n e ⟨hn, made⟩
    refine ⟨dataOf_of_makes made, fun url hurl => ?_⟩
    unfold Makes at made
    unfold SaysMask
    cases framework : r.framework with
    | htmlCss =>
      simp only [true_or, iff_true]
      exact Html.Page.exists_maskRule ⟨r, assets⟩ hn hurl
    | reactTailwind | reactTailwindV4 =>
      rw [framework] at made
      simpa using (React.renderer r assets).style?_of_masked made hurl
  · exact fun leaves => (written_eq_emitted r.root leaves).trans (shown_eq_emitted r.root).symm

/-- a group of a mask and a card, for every framework: the card says the mask -/
theorem masked_elements_card :
    let mask : DesignNode := ⟨{
      id := "2", name := "Mask", kind := .rectangle, isMask := true
      payload := .shape { fills := [{ fill := .image { imageRef := some "ref" } }] } {} {} }, []⟩
    let card : DesignNode := ⟨{
      id := "3", name := "Card", kind := .frame, payload := .container {} }, []⟩
    let masked : DesignNode := ⟨{ id := "1", name := "Masked", kind := .group }, [mask, card]⟩
    let assets : Assets := { images := Dict.ofList [("ref", "mask.png")] }
    ∃ tree, (({} : Session).style masked).1 = some tree ∧
      (tree.shown.map fun n => (n.id, maskUrl? assets n.toStyledData))
        = [("1", none), ("3", some "mask.png")] ∧
      ∀ framework, let r : Request := { root := tree, framework }
        List.Forall₂ (fun n e => dataOf e.attributes = dataMarkup n.toStyledData ∧
            ∀ url, maskUrl? assets n.toStyledData = some url → r.SaysMask assets n e url)
          r.root.shown (nodeElements (r.rootElement? assets).toList) := by
  intro mask card masked assets
  have styled : (({} : Session).style masked).1.map (fun tree =>
      (tree.shown.map fun n => (n.id, maskUrl? assets n.toStyledData),
        tree.preOrder.all fun n => !n.isText && React.bearsMask n))
        = some ([("1", none), ("3", some "mask.png")], true) := by decide
  obtain ⟨tree, h, found⟩ := Option.map_eq_some_iff.mp styled
  obtain ⟨masks, boxes⟩ := Prod.mk.inj found
  have box : ∀ n ∈ tree.preOrder, n.isText = false ∧ React.bearsMask n = true := by
    simpa using boxes
  refine ⟨tree, h, masks, fun framework => ?_⟩
  obtain ⟨elements, shown⟩ := masked_elements { root := tree, framework } assets
  rw [shown fun m hm text => absurd text (by rw [(box m hm).1]; decide)] at elements
  have part : ∀ n ∈ tree.shown, n ∈ tree.preOrder := (shown_sublist tree).subset
  refine ((List.forall₂_and_left _ _).mpr ⟨part, elements⟩).imp ?_
  rintro n e ⟨there, data, says_iff⟩
  exact ⟨data, fun url hurl => (says_iff url hurl).mpr (.inr (box n there).2)⟩

/-- a text behind a mask: a component shows it in full, though its mask is known -/
theorem masked_text_shown :
    let mask : DesignNode := ⟨{
      id := "2", name := "Mask", kind := .rectangle, isMask := true
      payload := .shape { fills := [{ fill := .image { imageRef := some "ref" } }] } {} {} }, []⟩
    let text : DesignNode := ⟨{
      id := "3", name := "Hello", kind := .text, payload := .text "Hello" {} {} }, []⟩
    let masked : DesignNode := ⟨{ id := "1", name := "Masked", kind := .group }, [mask, text]⟩
    let assets : Assets := { images := Dict.ofList [("ref", "mask.png")] }
    ∃ tree, (({} : Session).style masked).1 = some tree ∧
      let r : Request := { root := tree, framework := .reactTailwind }
      (tree.shown.map fun n => (n.id, maskUrl? assets n.toStyledData))
        = [("1", none), ("3", some "mask.png")] ∧
      (nodeElements (r.rootElement? assets).toList).map (fun e =>
        maskStyles.map fun key => e.style? key) = [[none, none], [none, none]] := by
  intro mask text masked assets
  have styled : (({} : Session).style masked).1.map (fun tree =>
      (tree.shown.map fun n => (n.id, maskUrl? assets n.toStyledData),
        (nodeElements (({ root := tree, framework := .reactTailwind } : Request).rootElement?
          assets).toList).map fun e => maskStyles.map fun key => e.style? key))
        = some ([("1", none), ("3", some "mask.png")], [[none, none], [none, none]]) := by
    decide +kernel
  obtain ⟨tree, h, found⟩ := Option.map_eq_some_iff.mp styled
  exact ⟨tree, h, Prod.mk.inj found⟩

end Request
end Handoff
