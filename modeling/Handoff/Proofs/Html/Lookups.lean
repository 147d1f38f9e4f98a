import Handoff.Proofs.Generation.Needs
import Handoff.Proofs.Html.Elements
import Mathlib.Data.List.Basic

/-!
# What a page looks up

The elements of a page look up the images of nodes that are no drawings, and drawings.  The rules of
a node look up images as well: one for its background, and its mask.  They do so for every node, even
for one that is a drawing.

* `element?_congr`     the elements of a tree;
* `Page.ruleImages`    the images in the rules of a node;
* `sheet_congr`        the rules of a tree;
* `ruleImages_subset`  apart from their order these are among the images of the node.
-/

namespace Handoff.Html.Page
open StyledNode

variable {r : Request} {a b : Assets} {n : StyledNode}

/-! ## elements -/

theorem nodeElement_congr_of_drawn (drawn : n.isDrawn = true)
    (same : a.drawing? n.id = b.drawing? n.id) (es es' : List Element) :
    nodeElement ⟨r, a⟩ n es = nodeElement ⟨r, b⟩ n es' := by
  unfold nodeElement
  rw [form_of_drawn drawn]
  dsimp only
  rw [drawingSource, drawingSource, drawingDocument_congr same]
  rfl

theorem mem_fills_of_soleImage? {ref : String} (h : soleImage? n = some ref) :
    ∃ layer ∈ n.fills, layer.imageRef? = some ref := by
  unfold soleImage? at h
  split at h
  · next layer fills _ => exact ⟨layer, fills ▸ List.mem_singleton_self _, h⟩
  · cases h

theorem layersElement_congr (same : a.SameFor b n) (plain : n.isDrawn = false) :
    layersElement ⟨r, a⟩ n.toStyledData = layersElement ⟨r, b⟩ n.toStyledData := by
  unfold layersElement
  congr 1
  refine List.map_congr_left fun e he => ?_
  have hl : e.1 ∈ n.fills := List.fst_mem_of_mem_zipIdx he
  unfold layerElement
  cases kind : e.1.kind with
  | image ref mode =>
    have image : e.1.imageRef? = some ref := by rw [FillLayer.imageRef?, kind]
    dsimp only
    rw [imageUrl_congr (same.fill plain hl image)]
  | solid color => rfl
  | gradient css => rfl

theorem nodeElement_congr (same : a.SameFor b n) (plain : n.isDrawn = false) (es : List Element) :
    nodeElement ⟨r, a⟩ n es = nodeElement ⟨r, b⟩ n es := by
  unfold nodeElement
  rw [form_of_not_drawn plain]
  cases sole : soleImage? n with
  | some ref =>
    obtain ⟨layer, hl, image⟩ := mem_fills_of_soleImage? sole
    dsimp only
    rw [imageUrl_congr (same.fill plain hl image)]
    rfl
  | none =>
    cases n.isText with
    | true => rfl
    | false =>
      cases needsLayers n with
      | true =>
        simp only [Bool.false_eq_true, if_false]
        rw [layersElement_congr same plain]
        rfl
      | false => rfl

/-- assets that agree on what the nodes of a tree need make the same elements of it -/
theorem element?_congr (n : StyledNode) :
    (∀ m ∈ n.emitted, a.SameFor b m) → element? ⟨r, a⟩ n = element? ⟨r, b⟩ n := by
  induction n using forest
    (Q := fun ns => (∀ m ∈ emittedAll ns, a.SameFor b m) →
      elements ⟨r, a⟩ ns = elements ⟨r, b⟩ ns) with
  | node d cs ih =>
    intro same
    unfold element?
    cases rendered : d.isRendered with
    | false => rw [if_neg Bool.false_ne_true, if_neg Bool.false_ne_true]
    | true =>
      rw [if_pos rfl, if_pos rfl]
      cases drawn : isDrawn ⟨d, cs⟩ with
      | true =>
        -- what is below a drawing is made into elements, but these are not used
        have own := same _ (emitted_drawn rendered drawn ▸ List.mem_singleton_self _)
        rw [nodeElement_congr_of_drawn drawn (own.drawing drawn)]
      | false =>
        rw [emitted_box rendered drawn] at same
        rw [ih fun m hm => same m (List.mem_cons_of_mem _ hm),
          nodeElement_congr (same _ List.mem_cons_self) drawn]
  | nil _ => rfl
  | cons n ns ih ihs same =>
    rw [elements, elements, ih fun m hm => same m (List.mem_append_left _ hm),
      ihs fun m hm => same m (List.mem_append_right _ hm)]

/-! ## rules -/

/-- the images in the rules of a node: that of its fills, where its styles have a background image,
and its mask -/
def ruleImages (p : Page) (n : StyledNode) : List String :=
  (if (p.formStyles n).contains "background-image" then n.fills.findSome? FillLayer.imageRef?
    else none).toList ++ n.maskImageRef.toList

theorem ruleImages_subset (p : Page) (n : StyledNode) :
    p.ruleImages n ⊆ AssetNeeds.nodeImages n.toStyledData := by
  intro ref h
  rcases List.mem_append.mp h with h | h
  · split at h
    · obtain ⟨layer, hl, image⟩ := List.exists_of_findSome?_eq_some (Option.mem_toList.mp h)
      exact mem_nodeImages_of_fill hl image
    · cases h
  · exact mem_nodeImages_of_mask (Option.mem_toList.mp h)

theorem nodeStyles_congr (overlap : Option Overlap)
    (same : ∀ ref ∈ ruleImages ⟨r, a⟩ n, a.image? ref = b.image? ref) :
    nodeStyles ⟨r, a⟩ overlap n = nodeStyles ⟨r, b⟩ overlap n := by
  have mask : maskUrl? a n.toStyledData = maskUrl? b n.toStyledData :=
    maskUrl?_congr fun ref h => same ref (List.mem_append_right _ (Option.mem_toList.mpr h))
  have background : withImage ⟨r, a⟩ n.toStyledData (formStyles ⟨r, a⟩ n)
      = withImage ⟨r, b⟩ n.toStyledData (formStyles ⟨r, a⟩ n) := by
    unfold withImage
    cases image : n.fills.findSome? FillLayer.imageRef? with
    | none => rfl
    | some ref =>
      dsimp only
      split
      · next has =>
        have shown : ref ∈ ruleImages ⟨r, a⟩ n := by
          refine List.mem_append_left _ ?_
          rw [if_pos has, image]
          exact List.mem_singleton_self _
        rw [imageUrl_congr (same ref shown)]
      · rfl
  have form : formStyles ⟨r, a⟩ n = formStyles ⟨r, b⟩ n := rfl
  unfold nodeStyles withMask
  dsimp only
  rw [mask, background, form]

/-- the rules of a node that is a drawing or a text are its own -/
theorem nodeSheet_leaf (p : Page) (overlap : Option Overlap) (leaf : (n.isDrawn || n.isText) = true)
    (s : Stylesheet) :
    p.nodeSheet overlap n s = widthRules n.toStyledData (p.nodeStyles overlap n) := by
  unfold nodeSheet
  cases drawn : n.isDrawn with
  | true => rw [form_of_drawn drawn]
  | false =>
    have text : n.isText = true := by rwa [drawn, Bool.false_or] at leaf
    rw [form_of_not_drawn drawn, text]
    cases soleImage? n <;> rfl

/-- assets that agree on the images in the rules of the nodes that are written make the same rules -/
theorem sheet_congr (n : StyledNode) : ∀ overlap : Option Overlap,
    (∀ m ∈ n.written, ∀ ref ∈ ruleImages ⟨r, a⟩ m, a.image? ref = b.image? ref) →
      sheet ⟨r, a⟩ overlap n = sheet ⟨r, b⟩ overlap n := by
  induction n using forest
    (Q := fun ns => ∀ overlap : Option Overlap,
      (∀ m ∈ writtenAll ns, ∀ ref ∈ ruleImages ⟨r, a⟩ m, a.image? ref = b.image? ref) →
        sheets ⟨r, a⟩ overlap ns = sheets ⟨r, b⟩ overlap ns) with
  | node d cs ih =>
    intro overlap same
    unfold sheet
    cases rendered : d.isRendered with
    | false => rw [if_neg Bool.false_ne_true, if_neg Bool.false_ne_true]
    | true =>
      have own := nodeStyles_congr overlap (same _ (mem_written_self rendered))
      rw [if_pos rfl, if_pos rfl]
      cases leaf : isDrawn ⟨d, cs⟩ || d.isText with
      | true => rw [nodeSheet_leaf _ overlap leaf, nodeSheet_leaf _ overlap leaf, own]
      | false =>
        rw [written_box rendered leaf] at same
        rw [ih d.overlap fun m hm => same m (List.mem_cons_of_mem _ hm)]
        unfold nodeSheet
        rw [own]
  | nil => exact rfl
  | cons n ns ih ihs overlap same =>
    rw [sheets, sheets, ih _ fun m hm => same m (List.mem_append_left _ hm),
      ihs _ fun m hm => same m (List.mem_append_right _ hm)]

/-! ## pages -/

/-- assets that agree on what the nodes of a tree need, and on the images in its rules, make the same
page of it -/
theorem code_congr (same : ∀ m ∈ r.root.emitted, a.SameFor b m)
    (rules : ∀ m ∈ r.root.written, ∀ ref ∈ ruleImages ⟨r, a⟩ m, a.image? ref = b.image? ref) :
    code ⟨r, a⟩ = code ⟨r, b⟩ ∧ css ⟨r, a⟩ = css ⟨r, b⟩ ∧ warnings ⟨r, a⟩ = warnings ⟨r, b⟩ := by
  have html : html ⟨r, a⟩ = html ⟨r, b⟩ := by
    unfold html root?
    rw [element?_congr r.root same]
  have css : css ⟨r, a⟩ = css ⟨r, b⟩ := by
    unfold css
    rw [sheet_congr r.root none rules]
  have code : code ⟨r, a⟩ = code ⟨r, b⟩ := by
    unfold code
    rw [html, css]
  refine ⟨code, css, ?_⟩
  unfold warnings
  refine List.flatMap_congr fun d hd => ?_
  obtain ⟨m, hm, rfl⟩ := List.mem_map.mp hd
  obtain ⟨emitted, drawn⟩ := List.mem_filter.mp hm
  exact congrArg Prod.snd (drawingDocument_congr ((same m emitted).drawing drawn))

end Handoff.Html.Page
