import Handoff.Proofs.Styling.Overlaid

/-!
# What is below a drawing

A node that becomes one drawing has no elements for what is below it, so nothing may be there that a
drawing does not show.  The test whether a node is one goes down to the first drawings and asks each
node on its way; below them it does not look.  It does not have to: a drawing is made of a vector, and
the nodes below a vector are not styled.

* `Depicts`                a drawing only of a vector, with nothing below it, and an image wherever
                           there is one among the fills;
* `depicts_of_yields`      the nodes of all trees are like this;
* `Drawable`               what a drawing can show: no text, no image, and vectors at the leaves;
* `allHoldDrawings_iff`    the test finds whether everything below a node can be shown;
* `drawn_hides_nothing`    everything below a node that is one drawing.
-/

namespace Handoff

namespace StyledNode

theorem preOrder_subset {root n : StyledNode} : n ∈ root.preOrder → n.preOrder ⊆ root.preOrder := by
  induction root using forest
    (Q := fun ns => n ∈ preOrderAll ns → n.preOrder ⊆ preOrderAll ns) with
  | node d cs ih =>
    intro hn
    rcases List.mem_cons.mp hn with rfl | hn
    · exact List.Subset.refl _
    · exact List.subset_cons_of_subset _ (ih hn)
  | nil hn => cases hn
  | cons m ms ih ihs hn =>
    rcases List.mem_append.mp hn with hn | hn
    · exact List.subset_append_of_subset_left _ (ih hn)
    · exact List.subset_append_of_subset_right _ (ihs hn)

/-- the walk below a node is a part of the walk -/
theorem preOrderAll_subset {root n : StyledNode} (hn : n ∈ root.preOrder) :
    preOrderAll n.children ⊆ root.preOrder := by
  obtain ⟨d, cs⟩ := n
  exact fun m hm => preOrder_subset hn (List.mem_cons_of_mem _ hm)

/-- what a node shows besides its box: a drawing, if it is a vector, and then nothing else; and an
image wherever there is one among its fills -/
structure Depicts (n : StyledNode) : Prop where
  vector : n.drawing.isSome = true → n.kind.isVector = true
  leaf : n.drawing.isSome = true → n.children = []
  image : n.image = none → ∀ l ∈ n.fills, l.imageRef? = none

theorem depicts_bare {n : StyledNode} : n.bare.Depicts ↔ n.Depicts := by
  obtain ⟨d, cs⟩ := n
  exact ⟨fun h => ⟨h.vector, fun drawn => bareAll_eq_nil_iff.mp (h.leaf drawn), h.image⟩,
    fun h => ⟨h.vector, fun drawn => bareAll_eq_nil_iff.mpr (h.leaf drawn), h.image⟩⟩

/-- what can be a part of a drawing -/
structure Drawable (n : StyledNode) : Prop where
  text : n.isText = false
  image : n.image = none
  leaf : n.children = [] → n.drawing.isSome = true

/-- the test asks a node for itself, and goes on unless it has a drawing; then there is nothing below -/
theorem holdsDrawing_iff {d : StyledData} {cs : List StyledNode}
    (leaf : d.drawing.isSome = true → cs = [])
    (below : allHoldDrawings cs = true ↔ ∀ m ∈ preOrderAll cs, m.Drawable) :
    holdsDrawing ⟨d, cs⟩ = true ↔ ∀ m ∈ preOrder ⟨d, cs⟩, m.Drawable := by
  show (!d.isText && d.image.isNone && (d.drawing.isSome || (!cs.isEmpty && allHoldDrawings cs)))
    = true ↔ ∀ m ∈ (⟨d, cs⟩ : StyledNode) :: preOrderAll cs, m.Drawable
  rw [List.forall_mem_cons, Bool.and_eq_true, Bool.and_eq_true, Bool.or_eq_true, Bool.and_eq_true,
    below, Bool.not_eq_true', Option.isNone_iff_eq_none]
  constructor
  · rintro ⟨⟨text, image⟩, drawn | ⟨filled, all⟩⟩
    · obtain rfl := leaf drawn
      exact ⟨⟨text, image, fun _ => drawn⟩, List.forall_mem_nil _⟩
    · refine ⟨⟨text, image, fun (empty : cs = []) => ?_⟩, all⟩
      rw [empty] at filled
      cases filled
  · rintro ⟨own, all⟩
    refine ⟨⟨own.text, own.image⟩, ?_⟩
    cases cs with
    | nil => exact .inl (own.leaf rfl)
    | cons c cs => exact .inr ⟨rfl, all⟩

/-- **The test for drawings.**  It finds whether every node below can be part of a drawing, at any
depth, where drawings have nothing below them. -/
theorem allHoldDrawings_iff {n : StyledNode} :
    (∀ m ∈ preOrderAll n.children, m.drawing.isSome = true → m.children = []) →
      (allHoldDrawings n.children = true ↔ ∀ m ∈ preOrderAll n.children, m.Drawable) := by
  induction n using forest
    (Q := fun ns => (∀ m ∈ preOrderAll ns, m.drawing.isSome = true → m.children = []) →
      (allHoldDrawings ns = true ↔ ∀ m ∈ preOrderAll ns, m.Drawable)) with
  | node d cs ih => exact ih
  | nil => exact iff_of_true rfl (List.forall_mem_nil _)
  | cons n ns ih ihs leaves =>
    obtain ⟨d, cs⟩ := n
    obtain ⟨first, later⟩ := List.forall_mem_append.mp leaves
    obtain ⟨leaf, below⟩ := List.forall_mem_cons.mp first
    show (holdsDrawing ⟨d, cs⟩ && allHoldDrawings ns) = true
      ↔ ∀ m ∈ preOrder ⟨d, cs⟩ ++ preOrderAll ns, m.Drawable
    rw [Bool.and_eq_true, List.forall_mem_append, holdsDrawing_iff leaf (ih below), ihs later]

end StyledNode

namespace Styling
open StyledNode

/-! ## the nodes of styled trees -/

/-- vectors only have a drawing -/
theorem isVector_of_drawing? {d : NodeData} (fits : d.payload.fits d.kind = true)
    (h : (drawing? d).isSome = true) : d.kind.isVector = true := by
  unfold drawing? at h
  cases payload : d.payload with
  | vector => rwa [payload] at fits
  | _ => rw [payload] at h; cases h

/-- the topmost image is there if there is one among the fills -/
theorem imageRef?_of_topImage? {d : NodeData} (missing : topImage? d = none) :
    ∀ l ∈ fillLayers d, l.imageRef? = none := by
  intro l hl
  obtain ⟨p, hp, made⟩ := List.mem_filterMap.mp hl
  have unused := List.findSome?_eq_none_iff.mp missing p (List.mem_reverse.mpr hp)
  obtain ⟨kind, hk, rfl⟩ := Option.map_eq_some_iff.mp made
  unfold imageUse? at unused
  cases fill : p.fill with
  | image i =>
    rw [fill] at hk unused
    obtain ⟨ref, href, -⟩ := Option.map_eq_some_iff.mp hk
    rw [Option.map_eq_none_iff.mp unused] at href
    cases href
  | solid c => rw [fill] at hk; cases hk; rfl
  | gradient shape g => rw [fill] at hk; cases hk; rfl
  | unsupported => rw [fill] at hk; cases hk

theorem depicts_styleNode (p : Policy) (n : DesignNode) (proper : n.WellFormed)
    (parent : ParentContext) (r : Float) (names : NameRegistry) :
    ∀ tree ∈ (styleNode p parent r n names).1, ∀ m ∈ tree.preOrder, m.Depicts := by
  refine forall_preOrder_styleNode p (D := fun d => d.payload.fits d.kind = true)
    (fun _ => depicts_bare) ?stack ?node n (fun m hm => (proper m hm).fits) parent r names
  case stack =>
    exact fun parent r d name children _ _ => ⟨nofun, nofun, fun _ => List.forall_mem_nil _⟩
  case node =>
    exact fun parent r d hasChildren name children fits _ leaf =>
      ⟨isVector_of_drawing? fits, fun drawn => leaf (isVector_of_drawing? fits drawn),
        imageRef?_of_topImage?⟩

variable {s : Session} {design : DesignNode} {root n : StyledNode}

theorem depicts_of_yields (proper : design.WellFormed) (h : s.Yields design root) :
    ∀ m ∈ root.preOrder, m.Depicts := by
  refine h.forall (fun tree styled => ?_) fun os m own => ?_
  · exact depicts_styleNode s.policy design proper {} 0.0 s.names tree styled
  · obtain ⟨responsive, presence, e⟩ := os.onData_eq m.toStyledData
    refine ⟨?_, ?_, ?_⟩
    · rw [os.data_apply, e]
      exact own.vector
    · rw [os.data_apply, os.children_apply, e, List.map_eq_nil_iff]
      exact own.leaf
    · rw [os.data_apply, e]
      exact own.image

/-- **One drawing hides nothing.**  In every tree of a well-formed design, with overlays or without,
no node below a node that is one drawing is a text, none has an image, not even among its fills, and
each that has no children is a vector with a drawing. -/
theorem drawn_hides_nothing (proper : design.WellFormed) (h : s.Yields design root)
    (hn : n ∈ root.preOrder) (drawn : n.isDrawn = true) : ∀ m ∈ preOrderAll n.children,
      m.isText = false ∧ (m.image = none ∧ ∀ l ∈ m.fills, l.imageRef? = none) ∧
        (m.children = [] → m.kind.isVector = true ∧ m.drawing.isSome = true) := by
  have depicts := depicts_of_yields proper h
  have below : ∀ m ∈ preOrderAll n.children, m.Depicts :=
    fun m hm => depicts m (preOrderAll_subset hn hm)
  have drawable : ∀ m ∈ preOrderAll n.children, m.Drawable := by
    rw [isDrawn, Bool.or_eq_true, Bool.and_eq_true] at drawn
    rcases drawn with own | ⟨-, all⟩
    · rw [(depicts n hn).leaf own]
      exact List.forall_mem_nil _
    · exact (allHoldDrawings_iff fun m hm => (below m hm).leaf).mp all
  intro m hm
  obtain ⟨text, image, leaf⟩ := drawable m hm
  exact ⟨text, ⟨image, (below m hm).image image⟩, fun empty =>
    ⟨(below m hm).vector (leaf empty), leaf empty⟩⟩

/-- an icon of a mark and of two rings on a stack -/
theorem drawn_hides_nothing_icon :
    let vector (id name : String) : DesignNode :=
      ⟨{ id, name, kind := .vector, payload := .vector {} {} }, []⟩
    let rings : DesignNode :=
      ⟨{ id := "3", name := "Rings", kind := .group }, [vector "4" "Inner", vector "5" "Outer"]⟩
    let icon : DesignNode := ⟨{
      id := "1", name := "Icon", kind := .component, bounds := some ⟨0.0, 0.0, 24.0, 24.0⟩
      payload := .container {} }, [vector "2" "Mark", rings]⟩
    icon.WellFormed ∧ ∃ tree, (({} : Session).style icon).1 = some tree ∧ tree ∈ tree.preOrder ∧
      tree.isDrawn = true ∧ (preOrderAll tree.children).map (fun m => m.id) = ["2", "3", "4", "5"] ∧
      ∀ m ∈ preOrderAll tree.children,
        m.isText = false ∧ (m.image = none ∧ ∀ l ∈ m.fills, l.imageRef? = none) ∧
          (m.children = [] → m.kind.isVector = true ∧ m.drawing.isSome = true) := by
  intro vector rings icon
  have proper : icon.WellFormed := by decide
  have seen : (({} : Session).style icon).1.map
      (fun t => (t.isDrawn, (preOrderAll t.children).map fun m => m.id))
        = some (true, ["2", "3", "4", "5"]) := by
    decide
  obtain ⟨tree, styled, both⟩ := Option.map_eq_some_iff.mp seen
  obtain ⟨drawn, below⟩ := Prod.mk.inj both
  have self := tree.mem_preOrder_self
  exact ⟨proper, tree, styled, self, drawn, below,
    drawn_hides_nothing proper (.styled styled) self drawn⟩

end Styling
end Handoff
