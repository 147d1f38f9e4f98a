import Handoff.Proofs.Styling.Cells
import Handoff.Proofs.Styling.Content
import Handoff.Proofs.Styling.Texts

/-!
# Trees with overlays

Overlays bring styles for wider screens and the widths at which a node is there, and leave the rest
of a tree as it is.  So what does not depend on these two holds of every tree that a session makes.

* `Overlays.preOrder_apply`   the nodes of a tree with overlays;
* `Session.Yields.forall`     what overlays preserve holds of all nodes of all trees;
* `faithful_of_yields`        nodes have the fills and the overlap of their design nodes;
* `exists_source_of_yields`   which are nodes of the design;
* `declared_of_yields`        the children of a box declare what they can declare anywhere.
-/

namespace Handoff
open StyledNode

namespace Overlays
variable (os : Overlays)

theorem preOrder_apply (n : StyledNode) : (os.apply n).preOrder = n.preOrder.map os.apply := by
  induction n using forest
    (Q := fun ns => preOrderAll (os.applyAll ns) = (preOrderAll ns).map os.apply) with
  | node d cs ih => exact congrArg (os.apply ⟨d, cs⟩ :: ·) ih
  | nil => rfl
  | cons n ns ih ihs =>
    show (os.apply n).preOrder ++ preOrderAll (os.applyAll ns)
      = (n.preOrder ++ preOrderAll ns).map os.apply
    rw [List.map_append, ih, ihs]

theorem data_apply (n : StyledNode) : (os.apply n).toStyledData = os.onData n.toStyledData := by
  obtain ⟨d, cs⟩ := n
  rfl

theorem children_apply (n : StyledNode) : (os.apply n).children = n.children.map os.apply := by
  obtain ⟨d, cs⟩ := n
  exact os.applyAll_eq_map cs

theorem source_apply (n : StyledNode) : (os.apply n).source = n.source := by
  rw [data_apply, onData_source]

/-- an overlay leaves all but what it brings -/
theorem onData_eq (n : StyledData) : ∃ responsive presence,
    os.onData n = { n with responsive, presence } := by
  unfold onData
  split
  · exact ⟨_, _, rfl⟩
  · exact ⟨n.responsive, n.presence, rfl⟩

end Overlays

/-- what overlays preserve holds of all nodes of all trees that a session makes -/
theorem Session.Yields.forall {s : Session} {design : DesignNode} {root : StyledNode}
    {Q : StyledNode → Prop} (h : s.Yields design root)
    (styled : ∀ tree, (s.style design).1 = some tree → ∀ m ∈ tree.preOrder, Q m)
    (overlaid : ∀ (os : Overlays) m, Q m → Q (os.apply m)) : ∀ m ∈ root.preOrder, Q m := by
  induction h with
  | styled h => exact styled _ h
  | overlaid os _ ih =>
    rw [os.preOrder_apply]
    exact List.forall_mem_map.mpr fun m hm => overlaid os m (ih m hm)

namespace Styling
variable {s : Session} {design : DesignNode} {root : StyledNode}

theorem faithful_onData (os : Overlays) {n : StyledData} (h : Faithful n) :
    Faithful (os.onData n) := by
  obtain ⟨responsive, presence, e⟩ := os.onData_eq n
  rw [e]
  exact ⟨h.fills, h.overlap⟩

theorem faithful_of_yields (h : s.Yields design root) :
    ∀ m ∈ root.preOrder, Faithful m.toStyledData := by
  refine h.forall (fun tree styled m hm => ?_) fun os m faithful => ?_
  · exact (made_styleNode s.policy design {} 0.0 s.names tree styled m hm).toFaithful
  · rw [os.data_apply]
    exact faithful_onData os faithful

theorem exists_source_of_yields (h : s.Yields design root) :
    ∀ m ∈ root.preOrder, ∃ d ∈ design.preOrder, d.toNodeData = m.source := by
  refine h.forall (fun tree styled m hm => ?_) fun os m source => ?_
  · obtain ⟨e, he, same⟩ := exists_shown styled m hm
    refine ⟨e.2, ?_, same⟩
    rw [← DesignNode.map_snd_located]
    exact List.mem_map_of_mem ((shown_sublist s.policy design).subset he)
  · rw [os.source_apply]
    exact source

/-- the children of a box declare what they can declare anywhere -/
theorem declared_of_yields (h : s.Yields design root) : ∀ m ∈ root.preOrder, m.isGroup = false →
    ∀ c ∈ m.children, c.styles.Each (Declared c.source) := by
  refine h.forall (fun tree styled m hm box c hc => ?_) fun os m declared box => ?_
  · have plain := declared_styleNode s.policy design {} 0.0 s.names tree styled
    exact (plain.below m hm c hc).2 (of_decide_eq_false box)
  · have same : (os.apply m).isGroup = m.isGroup := by
      rw [StyledData.isGroup, StyledData.kind, os.source_apply]
      rfl
    rw [os.children_apply]
    refine List.forall_mem_map.mpr fun c hc => ?_
    obtain ⟨responsive, presence, e⟩ := os.onData_eq c.toStyledData
    rw [os.data_apply, e]
    exact declared (same ▸ box) c hc

/-- the fills of a node are those of its design node, as groups have none -/
theorem fills_of_yields (proper : design.WellFormed) (h : s.Yields design root) :
    ∀ m ∈ root.preOrder, m.fills = fillLayers m.source := by
  intro m hm
  refine (faithful_of_yields h m hm).fills.trans ?_
  split
  · next group =>
    have kind : m.source.kind = .group := of_decide_eq_true group
    obtain ⟨d, hd, same⟩ := exists_source_of_yields h m hm
    have fits := same ▸ (proper d hd).fits
    rw [kind] at fits
    unfold fillLayers seenFills NodeData.paints?
    cases payload : m.source.payload with
    | group => split <;> rfl
    | _ => rw [payload] at fits; cases fits
  · rfl

end Styling
end Handoff
