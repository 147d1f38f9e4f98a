import Handoff.Asset
import Handoff.Generation.Attributes
import Handoff.Proofs.Rule.Spelling
import Handoff.Proofs.Styled.Shown

/-!
# What is collected for a tree, and what is looked up for a node

The needs of a tree are collected in a walk of their own.  It comes to the nodes that become elements:
it takes the id of a drawing and the images of any other node, each once.  Addresses of images and
documents of drawings are looked up all over the generators; two sets of assets that agree on the
images of a node, or on its drawing, cannot be told apart by what is written for this node.

* `drawings_of`      the ids of the drawings, without repetitions;
* `mem_images_of`    the images of the nodes that are no drawings;
* `Assets.SameFor`   assets that agree on what a node needs;
* `imageUrl_congr`, `maskUrl?_congr`, `drawingDocument_congr`   what is then the same.
-/

namespace Handoff.AssetNeeds
open StyledNode

theorem foldl_addOnce (xs : List String) : ∀ seen : List String,
    xs.foldl addOnce seen.eraseDups = (seen ++ xs).eraseDups := by
  induction xs with
  | nil => exact fun seen => by rw [List.append_nil]; rfl
  | cons x xs ih =>
    intro seen
    have once : addOnce seen.eraseDups x = (seen ++ [x]).eraseDups := by
      rw [eraseDups_concat, addOnce]
      simp only [List.contains_iff_mem]
    rw [List.foldl_cons, once, ih, List.append_assoc]
    rfl

/-- the drawings of a tree come behind those that are there already, and so do its images -/
theorem add_eq (n : StyledNode) : ∀ a : AssetNeeds, a.add n =
    ⟨((n.emitted.filter fun m => !m.isDrawn).flatMap fun m => nodeImages m.toStyledData).foldl
        addOnce a.images,
      ((n.emitted.filter isDrawn).map fun m => m.id).foldl addOnce a.drawings⟩ := by
  induction n using forest (Q := fun ns => ∀ a : AssetNeeds, a.addAll ns =
    ⟨(((emittedAll ns).filter fun m => !m.isDrawn).flatMap
        fun m => nodeImages m.toStyledData).foldl addOnce a.images,
      (((emittedAll ns).filter isDrawn).map fun m => m.id).foldl addOnce a.drawings⟩) with
  | node d cs ih =>
    intro a
    rw [add]
    cases rendered : d.isRendered with
    | false => rw [emitted_hidden rendered]; rfl
    | true =>
      simp only [Bool.not_true, Bool.false_eq_true, if_false]
      cases drawn : isDrawn ⟨d, cs⟩ with
      | true =>
        rw [emitted_drawn rendered drawn, if_pos rfl]
        simp [drawn]
      | false =>
        rw [emitted_box rendered drawn, if_neg Bool.false_ne_true, ih]
        simp [drawn]
  | nil _ => rfl
  | cons n ns ih ihs a =>
    show (a.add n).addAll ns = _
    rw [ihs, ih]
    show _ = AssetNeeds.mk ((((n.emitted ++ emittedAll ns).filter _).flatMap _).foldl _ _)
      ((((n.emitted ++ emittedAll ns).filter _).map _).foldl _ _)
    simp only [List.filter_append, List.flatMap_append, List.map_append, List.foldl_append]

/-- the ids of the drawings, in the order of the walk -/
theorem drawings_of (root : StyledNode) :
    (of root).drawings = ((root.emitted.filter isDrawn).map fun m => m.id).eraseDups := by
  rw [of, add_eq]
  exact foldl_addOnce _ []

theorem mem_drawings_of {root : StyledNode} {id : String} :
    id ∈ (of root).drawings ↔ ∃ n ∈ root.emitted, n.isDrawn = true ∧ n.id = id := by
  rw [drawings_of, List.mem_eraseDups, List.mem_map]
  simp only [List.mem_filter, and_assoc]

/-- the images of the nodes that are no drawings -/
theorem mem_images_of {root : StyledNode} {ref : String} :
    ref ∈ (of root).images
      ↔ ∃ n ∈ root.emitted, n.isDrawn = false ∧ ref ∈ nodeImages n.toStyledData := by
  have images : (of root).images = ((root.emitted.filter fun m => !m.isDrawn).flatMap
      fun m => nodeImages m.toStyledData).eraseDups := by
    rw [of, add_eq]
    exact foldl_addOnce _ []
  rw [images, List.mem_eraseDups, List.mem_flatMap]
  simp only [List.mem_filter, Bool.not_eq_true', and_assoc]

end Handoff.AssetNeeds

namespace Handoff

/-! ## lookups -/

/-- assets that agree on the images of a node or, if it is one, on its drawing -/
structure Assets.SameFor (a b : Assets) (n : StyledNode) : Prop where
  images : n.isDrawn = false →
    ∀ ref ∈ AssetNeeds.nodeImages n.toStyledData, a.image? ref = b.image? ref
  drawing : n.isDrawn = true → a.drawing? n.id = b.drawing? n.id

section
variable {a b : Assets} {n : StyledData} {ref : String}

theorem imageUrl_congr (h : a.image? ref = b.image? ref) : imageUrl a n ref = imageUrl b n ref := by
  rw [imageUrl, Assets.imageOr, h]
  rfl

theorem maskUrl?_congr (h : ∀ ref ∈ n.maskImageRef, a.image? ref = b.image? ref) :
    maskUrl? a n = maskUrl? b n := by
  unfold maskUrl?
  cases mask : n.maskImageRef with
  | none => rfl
  | some ref => exact h ref mask

theorem drawingDocument_congr (h : a.drawing? n.id = b.drawing? n.id) :
    drawingDocument a n = drawingDocument b n := by
  unfold drawingDocument
  rw [h]

theorem mem_nodeImages_of_fill {layer : FillLayer} (hl : layer ∈ n.fills)
    (h : layer.imageRef? = some ref) : ref ∈ AssetNeeds.nodeImages n :=
  List.mem_append_left _ (List.mem_append_left _ (List.mem_filterMap.mpr ⟨layer, hl, h⟩))

theorem mem_nodeImages_of_mask (h : n.maskImageRef = some ref) :
    ref ∈ AssetNeeds.nodeImages n :=
  List.mem_append_right _ (Option.mem_toList.mpr h)

end

namespace Assets.SameFor
variable {a b : Assets} {n : StyledNode}

theorem fill (h : a.SameFor b n) (plain : n.isDrawn = false) {layer : FillLayer}
    (hl : layer ∈ n.fills) {ref : String} (image : layer.imageRef? = some ref) :
    a.image? ref = b.image? ref := h.images plain ref (mem_nodeImages_of_fill hl image)

theorem mask (h : a.SameFor b n) (plain : n.isDrawn = false) :
    ∀ ref ∈ n.maskImageRef, a.image? ref = b.image? ref :=
  fun ref hr => h.images plain ref (mem_nodeImages_of_mask hr)

end Assets.SameFor
end Handoff
