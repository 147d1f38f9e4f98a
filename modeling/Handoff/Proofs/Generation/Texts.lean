import Handoff.Proofs.Generation.Elements
import Handoff.Proofs.React.Scope
import Handoff.Proofs.Styled.Shown
import Handoff.Proofs.Styling.Texts

/-!
# The elements of texts

A text becomes a span that says its characters, or refers to the prop that is bound for it.  A page
looks for an image first, so there a text with one image for its fill becomes this image.

* `Request.Says`      what the element of a text may say;
* `text_elements`     the elements of all texts that are shown.
-/

namespace Handoff
open StyledNode

/-- a prop that is bound for the text of a node with some id -/
structure React.Props.IsTextOf (ps : Props) (root : StyledNode) (id : String) (b : Binding) :
    Prop where
  bound : ps.bindings.get? id = some b
  kind : b.kind = .text
  default : ∃ m ∈ root.preOrder, m.id = id ∧ m.characters? = some b.default

namespace Request

/-- what the element of a text may say: its characters, or a prop that is bound for it -/
def Says (r : Request) (assets : Assets) (n : StyledData) : Content → Prop
  | .text t => n.characters? = some t
  | .expression x => r.framework ≠ .htmlCss ∧ r.options.withProps = true ∧
      ∃ b, (React.Props.of assets r.root).IsTextOf r.root n.id b ∧ b.name = x
  | .empty => False

theorem elementTag_of_isText {n : StyledData} (h : n.isText = true) : elementTag n = "span" := by
  have kind : n.kind = .text := of_decide_eq_true h
  rw [elementTag, kind]
  rfl

theorem says_characters {r : Request} {assets : Assets} {n : StyledNode} (label : n.IsLabel) :
    r.Says assets n.toStyledData (.text (n.characters?.getD "")) := by
  obtain ⟨t, ht⟩ := Option.isSome_iff_exists.mp label.characters
  rw [ht]
  exact ht

theorem says_textContent {r : Request} {assets : Assets} {n : StyledNode} (label : n.IsLabel)
    (component : r.framework ≠ .htmlCss) :
    r.Says assets n.toStyledData ((React.renderer r assets).textContent n.toStyledData) := by
  unfold React.Renderer.textContent
  split
  · next x found =>
    cases props : r.options.withProps with
    | false =>
      rw [React.renderer, props] at found
      cases found
    | true =>
      rw [React.renderer, props] at found
      obtain ⟨b, bound, name, kind⟩ := React.Props.get?_of_name? found
      refine ⟨component, props, b, ⟨bound, kind, ?_⟩, name⟩
      obtain ⟨m, hm, id, shows⟩ := (React.Bound.of assets r.root).own _ b bound
      rcases shows with ⟨-, characters⟩ | ⟨image, -⟩
      · exact ⟨m, hm, id, characters⟩
      · rw [kind] at image
        cases image
  · exact says_characters label

/-- the element of a text in a component -/
theorem component_text {r : Request} {assets : Assets} {n : StyledNode} {e : Element}
    (label : n.IsLabel) (text : n.isText = true) (component : r.framework ≠ .htmlCss)
    (made : (React.renderer r assets).Makes n e) :
    ∃ as content, e = .leaf "span" as content ∧ r.Says assets n.toStyledData content := by
  obtain ⟨overlap, rfl⟩ := made.exists_overlap _ label.not_drawn
  unfold React.Renderer.nodeElement
  dsimp only
  rw [if_pos text, elementTag_of_isText text]
  exact ⟨_, _, rfl, says_textContent label component⟩

/-- the element of a text in a page: an image comes first -/
theorem page_text {r : Request} {assets : Assets} {n : StyledNode} {e : Element}
    (label : n.IsLabel) (text : n.isText = true)
    (made : (⟨r, assets⟩ : Html.Page).elementOf n = e) :
    if (Html.soleImage? n).isSome = true then ∃ as, e = .closed "img" as
    else ∃ as content, e = .leaf "span" as content ∧ r.Says assets n.toStyledData content := by
  have form := Html.form_of_not_drawn label.not_drawn
  rw [← made]
  unfold Html.Page.elementOf Html.Page.nodeElement
  cases image : Html.soleImage? n with
  | some ref =>
    rw [image] at form
    rw [form]
    exact ⟨_, rfl⟩
  | none =>
    rw [image, text] at form
    rw [form]
    exact ⟨_, _, congrArg (Element.leaf · _ _) (elementTag_of_isText text),
      says_characters label⟩

/-- **Text comes before images, but for pages.**  In the code of a tree that was made from a
well-formed design, for every framework, rules, options and assets, the elements that there are for
the texts are these:

* a span that says the characters of the text or, with props, refers to a prop that is bound for a
  text with its id;
* but in a page an image, where the text has one fill that is shown and this is an image.

Where all ids are distinct, the prop is bound for this very text. -/
theorem text_elements (s : Session) {design : DesignNode} (proper : design.WellFormed) (r : Request)
    (h : s.Yields design r.root) (assets : Assets) :
    List.Forall₂ (fun n e => n.isText = true →
        if r.framework = .htmlCss ∧ (Html.soleImage? n).isSome = true then
          ∃ as, e = .closed "img" as
        else ∃ as content, e = .leaf "span" as content ∧ r.Says assets n.toStyledData content)
        r.root.shown (nodeElements (r.rootElement? assets).toList) ∧
      ((r.root.preOrder.map fun n => n.id).Nodup → ∀ n ∈ r.root.shown, ∀ b,
        (React.Props.of assets r.root).IsTextOf r.root n.id b →
          n.characters? = some b.default) := by
  have labels := Styling.textsAreLabels_of_yields proper h
  have written : r.root.written = r.root.shown := by
    rw [shown_eq_emitted]
    exact written_eq_emitted r.root fun m hm text => (labels m hm text).leaf
  constructor
  · rw [← written]
    have part : ∀ n ∈ r.root.written, n ∈ r.root.preOrder := (written_sublist r.root).subset
    refine ((List.forall₂_and_left _ _).mpr ⟨part, r.makes_rootElement? assets⟩).imp ?_
    rintro n e ⟨there, made⟩ text
    have label := labels n there text
    unfold Makes at made
    cases framework : r.framework with
    | htmlCss =>
      rw [framework] at made
      simp only [true_and]
      exact page_text label text made
    | reactTailwind | reactTailwindV4 =>
      rw [framework] at made
      rw [if_neg (fun page => by cases page.1)]
      exact component_text label text (by rw [framework]; decide) made
  · intro ids n hn b own
    obtain ⟨m, hm, same, characters⟩ := own.default
    have there : n ∈ r.root.preOrder := (shown_sublist r.root).subset hn
    obtain rfl : m = n := List.inj_on_of_nodup_map ids hm there same
    exact characters

/-- a card with a title, with props -/
theorem text_elements_card :
    let title : DesignNode := ⟨{
      id := "2", name := "Title", kind := .text, payload := .text "Hello" {} {} }, []⟩
    let card : DesignNode := ⟨{
      id := "1", name := "Card", kind := .frame, payload := .container {} }, [title]⟩
    ∃ tree, ({} : Session).Yields card tree ∧ (tree.preOrder.map fun n => n.id) = ["1", "2"] ∧
      ∀ framework, let r : Request := { root := tree, framework, options := { withProps := true } }
        List.Forall₂ (fun n e => n.isText = true →
            if r.framework = .htmlCss ∧ (Html.soleImage? n).isSome = true then
              ∃ as, e = .closed "img" as
            else ∃ as content, e = .leaf "span" as content ∧ r.Says {} n.toStyledData content)
            r.root.shown (nodeElements (r.rootElement? {}).toList) ∧
          ∀ n ∈ r.root.shown, ∀ b, (React.Props.of {} r.root).IsTextOf r.root n.id b →
            n.characters? = some b.default := by
  intro title card
  have styled : (({} : Session).style card).1.map (fun t => t.preOrder.map fun n => n.id)
      = some ["1", "2"] := by decide
  obtain ⟨tree, h, ids⟩ := Option.map_eq_some_iff.mp styled
  have yields : ({} : Session).Yields card tree := .styled h
  refine ⟨tree, yields, ids, fun framework => ?_⟩
  obtain ⟨elements, own⟩ := text_elements {} (by decide : card.WellFormed)
    { root := tree, framework, options := { withProps := true } } yields {}
  exact ⟨elements, own (ids ▸ by decide)⟩

/-- a title that is filled with an image: a page shows the image, a component the title -/
theorem text_as_image :
    let image : Paint := { fill := .image { imageRef := some "ref" } }
    let title : DesignNode := ⟨{
      id := "1", name := "Title", kind := .text
      payload := .text "Hello" {} { fills := [image] } }, []⟩
    title.WellFormed ∧ ∃ tree, (({} : Session).style title).1 = some tree ∧ tree.isText = true ∧
      (nodeElements (({ root := tree, framework := .htmlCss } : Request).rootElement? {}).toList).map
        Element.tag = ["img"] ∧
      (nodeElements
          (({ root := tree, framework := .reactTailwind } : Request).rootElement? {}).toList).map
        Element.tag = ["span"] := by
  intro image title
  have proper : title.WellFormed := by decide
  have styled : (({} : Session).style title).1.map (fun tree => (tree.isText,
      (nodeElements (({ root := tree, framework := .htmlCss } : Request).rootElement? {}).toList).map
        Element.tag,
      (nodeElements
          (({ root := tree, framework := .reactTailwind } : Request).rootElement? {}).toList).map
        Element.tag)) = some (true, ["img"], ["span"]) := by decide
  obtain ⟨tree, h, facts⟩ := Option.map_eq_some_iff.mp styled
  simp only [Prod.mk.injEq] at facts
  exact ⟨proper, tree, h, facts⟩

end Request
end Handoff
