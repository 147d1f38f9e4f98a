import Handoff.Proofs.Generation.Needs
import Handoff.Proofs.React.Drawings
import Handoff.React.Component
import Mathlib.Data.List.Basic

/-!
# What a component looks up

A component depends on its assets through its elements, its drawings and its props only, and each of
them looks up nothing but the images of nodes that are no drawings, and drawings.

* `element?_congr`       the elements of a tree;
* `Drawings.of_congr`    its drawings;
* `Props.add_congr`      its props;
* `renderer_congr`       the whole component.
-/

namespace Handoff.React
open StyledNode

variable {a b : Assets}

theorem mem_fills_of_fillForm {n : StyledNode} {layer : FillLayer}
    (h : fillForm n = .image layer) : layer ∈ n.fills :=
  (of_fillForm_image h).1 ▸ List.mem_singleton_self layer

/-! ## elements -/

section
variable {r : Request} {ds : Drawings} {ps : Props} {n : StyledNode}

theorem layersElement_congr (same : a.SameFor b n) (plain : n.isDrawn = false) :
    Renderer.layersElement ⟨r, a, ds, ps⟩ n.toStyledData
      = Renderer.layersElement ⟨r, b, ds, ps⟩ n.toStyledData := by
  have layers (corners : String) :
      n.fills.map (Renderer.layerElement ⟨r, a, ds, ps⟩ n.toStyledData corners)
        = n.fills.map (Renderer.layerElement ⟨r, b, ds, ps⟩ n.toStyledData corners) := by
    refine List.map_congr_left fun layer hl => ?_
    unfold Renderer.layerElement
    cases kind : layer.kind with
    | image ref mode =>
      have image : layer.imageRef? = some ref := by rw [FillLayer.imageRef?, kind]
      have url : imageUrl a n.toStyledData ref = imageUrl b n.toStyledData ref :=
        imageUrl_congr (same.fill plain hl image)
      dsimp only
      rw [url]
    | solid color => rfl
    | gradient css => rfl
  unfold Renderer.layersElement
  dsimp only
  rw [layers]

theorem nodeElement_congr (same : a.SameFor b n) (plain : n.isDrawn = false)
    (overlap : Option Overlap) (es : List Element) :
    Renderer.nodeElement ⟨r, a, ds, ps⟩ overlap n es
      = Renderer.nodeElement ⟨r, b, ds, ps⟩ overlap n es := by
  have mask : Renderer.maskMarkup ⟨r, a, ds, ps⟩ n.toStyledData
      = Renderer.maskMarkup ⟨r, b, ds, ps⟩ n.toStyledData := by
    unfold Renderer.maskMarkup
    dsimp only
    rw [maskUrl?_congr (same.mask plain)]
  have box (classes : List String) : Renderer.boxElement ⟨r, a, ds, ps⟩ n classes es
      = Renderer.boxElement ⟨r, b, ds, ps⟩ n classes es := by
    unfold Renderer.boxElement
    rw [mask, layersElement_congr same plain]
    rfl
  have image (classes : List String) {opacity : Float} {ref : String} {mode : ScaleMode}
      (h : fillForm n = .image ⟨opacity, .image ref mode⟩) :
      Renderer.imageElement ⟨r, a, ds, ps⟩ n.toStyledData classes ref mode
        = Renderer.imageElement ⟨r, b, ds, ps⟩ n.toStyledData classes ref mode := by
    have url : imageUrl a n.toStyledData ref = imageUrl b n.toStyledData ref :=
      imageUrl_congr (same.fill plain (mem_fills_of_fillForm h) rfl)
    unfold Renderer.imageElement Renderer.imageSource
    dsimp only
    rw [url]
    rfl
  unfold Renderer.nodeElement
  dsimp only
  split
  · rfl
  · split
    · next h => exact image _ h
    · exact box _

/-- assets that agree on what the nodes of a tree need make the same elements of it -/
theorem element?_congr (n : StyledNode) : ∀ overlap : Option Overlap,
    (∀ m ∈ n.emitted, a.SameFor b m) →
    Renderer.element? ⟨r, a, ds, ps⟩ overlap n = Renderer.element? ⟨r, b, ds, ps⟩ overlap n := by
  induction n using forest
    (Q := fun ns => ∀ overlap : Option Overlap, (∀ m ∈ emittedAll ns, a.SameFor b m) →
      Renderer.elements ⟨r, a, ds, ps⟩ overlap ns
        = Renderer.elements ⟨r, b, ds, ps⟩ overlap ns) with
  | node d cs ih =>
    intro overlap same
    unfold Renderer.element?
    cases rendered : d.isRendered with
    | false => rfl
    | true =>
      simp only [Bool.not_true, Bool.false_eq_true, if_false]
      cases drawn : isDrawn ⟨d, cs⟩ with
      | true => rfl
      | false =>
        rw [emitted_box rendered drawn] at same
        rw [if_neg Bool.false_ne_true, if_neg Bool.false_ne_true,
          nodeElement_congr (same _ List.mem_cons_self) drawn,
          ih d.overlap fun m hm => same m (List.mem_cons_of_mem _ hm)]
  | nil => exact rfl
  | cons n ns ih ihs overlap same =>
    show (Renderer.element? ⟨r, a, ds, ps⟩ _ n).toList ++ Renderer.elements ⟨r, a, ds, ps⟩ _ ns
      = (Renderer.element? ⟨r, b, ds, ps⟩ _ n).toList ++ Renderer.elements ⟨r, b, ds, ps⟩ _ ns
    rw [ih _ fun m hm => same m (List.mem_append_left _ hm),
      ihs _ fun m hm => same m (List.mem_append_right _ hm)]

end

/-! ## drawings and props -/

theorem Drawings.of_congr (mode : SvgMode) {root : StyledNode}
    (same : ∀ m ∈ root.emitted, a.SameFor b m) :
    Drawings.of mode a root = Drawings.of mode b root := by
  have each (d : StyledData) (hd : d ∈ drawnNodes root) (ds : Drawings) :
      ds.add mode a d = ds.add mode b d := by
    obtain ⟨m, hm, rfl⟩ := List.mem_map.mp hd
    obtain ⟨emitted, drawn⟩ := List.mem_filter.mp hm
    unfold Drawings.add
    rw [drawingDocument_congr ((same m emitted).drawing drawn)]
  unfold Drawings.of
  rw [Drawings.visited_root]
  exact List.foldl_ext _ _ _ fun ds d hd => each d hd ds

theorem bindImage_congr (ps : Props) {n : StyledNode} (same : a.SameFor b n)
    (plain : n.isDrawn = false) : Props.bindImage a ps n = Props.bindImage b ps n := by
  unfold Props.bindImage
  split
  · next layer h =>
    have image : layer.imageRef?.bind a.image? = layer.imageRef?.bind b.image? := by
      cases ref : layer.imageRef? with
      | none => rfl
      | some ref' => exact same.fill plain (mem_fills_of_fillForm h) ref
    rw [image]
  · rfl

theorem Props.add_congr (n : StyledNode) : ∀ ps : Props, (∀ m ∈ n.emitted, a.SameFor b m) →
    Props.add a ps n = Props.add b ps n := by
  induction n using forest
    (Q := fun ns => ∀ ps : Props, (∀ m ∈ emittedAll ns, a.SameFor b m) →
      Props.addAll a ps ns = Props.addAll b ps ns) with
  | node d cs ih =>
    intro ps same
    unfold Props.add
    cases visible : d.isVisible with
    | false => rfl
    | true =>
      cases drawn : isDrawn ⟨d, cs⟩ with
      | true => rfl
      | false =>
        -- what can be seen is rendered
        have rendered : d.isRendered = true := by
          rw [StyledData.isRendered, visible, Bool.true_or]
        rw [emitted_box rendered drawn] at same
        simp only [Bool.not_true, Bool.or_false, Bool.false_eq_true, if_false]
        rw [bindImage_congr _ (same _ List.mem_cons_self) drawn,
          ih _ fun m hm => same m (List.mem_cons_of_mem _ hm)]
  | nil => exact rfl
  | cons n ns ih ihs ps same =>
    show Props.addAll a (Props.add a ps n) ns = Props.addAll b (Props.add b ps n) ns
    rw [ih _ fun m hm => same m (List.mem_append_left _ hm),
      ihs _ fun m hm => same m (List.mem_append_right _ hm)]

/-! ## components -/

/-- assets that agree on what the nodes of a tree need make the same component of it, with the same
drawings -/
theorem renderer_congr (r : Request) (same : ∀ m ∈ r.root.emitted, a.SameFor b m) :
    (renderer r a).componentText = (renderer r b).componentText
      ∧ (renderer r a).drawings = (renderer r b).drawings := by
  have drawings : (renderer r a).drawings = (renderer r b).drawings :=
    Drawings.of_congr r.options.svgMode same
  have props : (renderer r a).props = (renderer r b).props := by
    show (if r.options.withProps then Props.of a r.root else {}) = _
    rw [Props.of, Props.add_congr r.root {} same]
    rfl
  have root : (renderer r a).root? = (renderer r b).root? := by
    show Renderer.element? ⟨r, a, (renderer r a).drawings, (renderer r a).props⟩ none r.root = _
    rw [drawings, props]
    exact element?_congr r.root none same
  refine ⟨?_, drawings⟩
  unfold Renderer.componentText
  rw [drawings, props, root]
  rfl

end Handoff.React
