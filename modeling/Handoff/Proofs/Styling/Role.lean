import Handoff.Proofs.Design.Walk
import Handoff.Proofs.Styling.Bare

/-!
# What becomes of a design node

`styleNode` does one of six things with a node, which depend on its kind and on its children that
are kept.  `Role` names them; for each there is one equation, and whatever is proved of styled trees
goes through these.

* `Role.of`              every node has a role;
* `styleNode_dropped`, `styleNode_wrapper`, …   the styled tree for a role;
* `styleAll_cons`        children are styled one after the other, but for a mask in front;
* `mem_styleAll`         each of them as it would be by itself, but for its name;
* `length_styleAll_le`   only children that are kept come out;
* `forall_styleNode`     what holds of all styled trees, by what becomes of their roots;
* `forall_preOrder_styleNode`   what holds of all their nodes, by what they are before their parents
                         change them.
-/

namespace Handoff.Styling

inductive Role (p : Policy) (d : NodeData) (cs : List DesignNode) : Prop
  | dropped (hidden : p.keeps d = false)
  | emptyGroup (kept : p.keeps d = true) (group : d.kind = .group) (children : keptData p cs = [])
  | wrapper (kept : p.keeps d = true) (group : d.kind = .group) (only : NodeData)
      (children : keptData p cs = [only])
  | stack (kept : p.keeps d = true) (group : d.kind = .group) (first second : NodeData)
      (rest : List NodeData) (children : keptData p cs = first :: second :: rest)
  | drawing (kept : p.keeps d = true) (vector : d.kind.isVector = true)
  | box (kept : p.keeps d = true) (noGroup : d.kind ≠ .group) (noVector : d.kind.isVector = false)

theorem Role.of (p : Policy) (d : NodeData) (cs : List DesignNode) : Role p d cs := by
  cases kept : p.keeps d with
  | false => exact .dropped kept
  | true =>
    by_cases group : d.kind = .group
    · match children : keptData p cs with
      | [] => exact .emptyGroup kept group children
      | [only] => exact .wrapper kept group only children
      | first :: second :: rest => exact .stack kept group first second rest children
    · cases vector : d.kind.isVector with
      | false => exact .box kept group vector
      | true => exact .drawing kept vector

theorem not_group_of_isVector {d : NodeData} (h : d.kind.isVector = true) : d.kind ≠ .group := by
  intro e
  rw [e] at h
  cases h

section
variable {p : Policy} {parent : ParentContext} {r : Float} {d : NodeData} {cs : List DesignNode}
  {names : NameRegistry}

theorem styleNode_dropped (hidden : p.keeps d = false) :
    styleNode p parent r ⟨d, cs⟩ names = (none, names) := by
  simp only [styleNode, hidden, Bool.not_false, if_true]

theorem styleNode_emptyGroup (kept : p.keeps d = true) (group : d.kind = .group)
    (children : keptData p cs = []) :
    styleNode p parent r ⟨d, cs⟩ names = (none, names) := by
  simp only [styleNode, kept, group, children, Bool.not_true, Bool.false_eq_true, if_false, if_true]

theorem styleNode_wrapper (kept : p.keeps d = true) (group : d.kind = .group) {only : NodeData}
    (children : keptData p cs = [only]) :
    styleNode p parent r ⟨d, cs⟩ names =
      let below := styleAll p parent (r + d.rotationDegrees) false cs names
      (below.1.head?.map fun c => c.2.restyle (inlinePatch d only parent).apply, below.2) := by
  simp only [styleNode, kept, group, children, Bool.not_true, Bool.false_eq_true, if_false, if_true]

theorem styleNode_stack (kept : p.keeps d = true) (group : d.kind = .group)
    {first second : NodeData} {rest : List NodeData}
    (children : keptData p cs = first :: second :: rest) :
    styleNode p parent r ⟨d, cs⟩ names =
      let issued := names.issue d.name
      let below :=
        styleAll p (stackContext d parent) (r + d.rotationDegrees) true cs issued.2
      (stack? parent (r + d.rotationDegrees) d (maskImage? first) issued.1 below.1, below.2) := by
  simp only [styleNode, kept, group, children, Bool.not_true, Bool.false_eq_true, if_false, if_true]

theorem styleNode_drawing (kept : p.keeps d = true) (vector : d.kind.isVector = true) :
    styleNode p parent r ⟨d, cs⟩ names =
      let issued := names.issue d.name
      (some ⟨nodeData p parent (r + d.rotationDegrees) d (!cs.isEmpty) issued.1, []⟩,
        issued.2) := by
  simp only [styleNode, kept, not_group_of_isVector vector, vector, Bool.not_true,
    Bool.false_eq_true, if_false, if_true]

theorem styleNode_box (kept : p.keeps d = true) (noGroup : d.kind ≠ .group)
    (noVector : d.kind.isVector = false) :
    styleNode p parent r ⟨d, cs⟩ names =
      let issued := names.issue d.name
      let below := styleAll p (.of d) (r + d.rotationDegrees) false cs issued.2
      (some (settle ⟨nodeData p parent (r + d.rotationDegrees) d (!cs.isEmpty) issued.1,
        below.1.map Prod.snd⟩), below.2) := by
  simp only [styleNode, kept, noGroup, noVector, Bool.not_true, Bool.false_eq_true, if_false]

end

/-! ## children -/

section
variable {p : Policy} {parent : ParentContext} {r : Float} {n : DesignNode} {ns : List DesignNode}
  {names : NameRegistry}

theorem styleAll_mask (kept : p.keeps n.toNodeData = true) (mask : n.isMask = true) :
    styleAll p parent r true (n :: ns) names = styleAll p parent r false ns names := by
  simp only [styleAll, kept, mask, Bool.and_self, if_true]

theorem styleAll_cons {masked : Bool} (h : (masked && p.keeps n.toNodeData && n.isMask) = false) :
    styleAll p parent r masked (n :: ns) names =
      let first := styleNode p parent r n names
      let others := styleAll p parent r (masked && !p.keeps n.toNodeData) ns first.2
      (first.1.toList.map (fun s => (n.toNodeData, s)) ++ others.1, others.2) := by
  simp only [styleAll, h, Bool.false_eq_true, if_false]
  cases (styleNode p parent r n names).1 <;> rfl

/-- what is styled comes from one of the nodes -/
theorem mem_styleAll {masked : Bool} {c : NodeData × StyledNode}
    (h : c ∈ (styleAll p parent r masked ns names).1) :
    ∃ n ∈ ns, ∃ names', c.2 ∈ (styleNode p parent r n names').1 := by
  induction ns generalizing masked names with
  | nil => cases h
  | cons n ns ih =>
    have later {masked : Bool} {names : NameRegistry}
        (h : c ∈ (styleAll p parent r masked ns names).1) :
        ∃ m ∈ n :: ns, ∃ names', c.2 ∈ (styleNode p parent r m names').1 := by
      obtain ⟨m, hm, styled⟩ := ih h
      exact ⟨m, List.mem_cons_of_mem n hm, styled⟩
    cases mask : masked && p.keeps n.toNodeData && n.isMask with
    | true =>
      simp only [Bool.and_eq_true] at mask
      rw [mask.1.1, styleAll_mask mask.1.2 mask.2] at h
      exact later h
    | false =>
      rw [styleAll_cons mask] at h
      rcases List.mem_append.mp h with first | h
      · obtain ⟨tree, htree, rfl⟩ := List.mem_map.mp first
        exact ⟨n, List.mem_cons_self, names, Option.mem_toList.mp htree⟩
      · exact later h

theorem keptData_cons : keptData p (n :: ns) =
    if p.keeps n.toNodeData then n.toNodeData :: keptData p ns else keptData p ns := by
  simp only [keptData, List.map_cons, List.filter_cons]

end

theorem length_styleAll_le (p : Policy) (parent : ParentContext) (r : Float) (masked : Bool)
    (ns : List DesignNode) (names : NameRegistry) :
    (styleAll p parent r masked ns names).1.length ≤ (keptData p ns).length := by
  induction ns generalizing masked names with
  | nil => exact Nat.le_refl 0
  | cons n ns ih =>
    rw [keptData_cons]
    cases kept : p.keeps n.toNodeData with
    | false =>
      obtain ⟨d, cs⟩ := n
      rw [styleAll_cons (by rw [kept, Bool.and_false, Bool.false_and]), styleNode_dropped kept]
      exact ih _ names
    | true =>
      rw [if_pos rfl, List.length_cons]
      cases h : masked && p.keeps n.toNodeData && n.isMask with
      | true =>
        simp only [Bool.and_eq_true] at h
        rw [h.1.1, styleAll_mask kept h.2]
        exact Nat.le_succ_of_le (ih false names)
      | false =>
        rw [styleAll_cons h]
        have := ih (masked && !p.keeps n.toNodeData) (styleNode p parent r n names).2
        have one : (styleNode p parent r n names).1.toList.length ≤ 1 := by
          cases (styleNode p parent r n names).1 <;> simp
        simp only [List.length_append, List.length_map]
        omega

theorem length_styleAll_le_one {p : Policy} {parent : ParentContext} {r : Float} {masked : Bool}
    {ns : List DesignNode} {names : NameRegistry} {only : NodeData}
    (h : keptData p ns = [only]) : (styleAll p parent r masked ns names).1.length ≤ 1 :=
  Nat.le_trans (length_styleAll_le ..) (by rw [h]; exact Nat.le_refl 1)

/-! ## what holds of styled trees -/

/-- a property of styled trees in a context, shown for each role, where `D` holds of the nodes of
the design -/
theorem forall_styleNode (p : Policy) {D : NodeData → Prop} {P : ParentContext → StyledNode → Prop}
    (wrapper : ∀ parent d only c, D d → d.kind = .group → P parent c →
      P parent (c.restyle (inlinePatch d only parent).apply))
    (stack : ∀ parent r d mask name children, D d → d.kind = .group →
      (∀ c ∈ children, P (stackContext d parent) c.2) →
      ∀ tree ∈ stack? parent r d mask name children, P parent tree)
    (drawing : ∀ parent r d hasChildren name, D d → d.kind.isVector = true →
      P parent ⟨nodeData p parent r d hasChildren name, []⟩)
    (box : ∀ parent r d hasChildren name children, D d → d.kind ≠ .group →
      d.kind.isVector = false → (∀ c ∈ children, P (.of d) c) →
      P parent (settle ⟨nodeData p parent r d hasChildren name, children⟩))
    (n : DesignNode) : (∀ m ∈ n.preOrder, D m.toNodeData) → ∀ parent r names,
      ∀ tree ∈ (styleNode p parent r n names).1, P parent tree := by
  induction n using DesignNode.byChildren with
  | node d cs ih =>
    intro hD parent r names tree h
    have own : D d := hD _ List.mem_cons_self
    have below {masked : Bool} {parent : ParentContext} {r : Float} {names : NameRegistry} :
        ∀ c ∈ (styleAll p parent r masked cs names).1, P parent c.2 := by
      intro c hc
      obtain ⟨n, hn, names', styled⟩ := mem_styleAll hc
      have deeper : ∀ m ∈ n.preOrder, D m.toNodeData := fun m hm =>
        hD m (List.mem_cons_of_mem _ (DesignNode.mem_preOrderAll_of_child hn hm))
      exact ih n hn deeper _ _ _ c.2 styled
    cases Role.of p d cs with
    | dropped hidden => rw [styleNode_dropped hidden] at h; cases h
    | emptyGroup kept group children =>
      rw [styleNode_emptyGroup kept group children] at h
      cases h
    | wrapper kept group only children =>
      rw [styleNode_wrapper kept group children] at h
      obtain ⟨c, first, rfl⟩ := Option.map_eq_some_iff.mp h
      exact wrapper _ _ _ _ own group (below c (List.mem_of_head? first))
    | stack kept group first second rest children =>
      rw [styleNode_stack kept group children] at h
      exact stack _ _ _ _ _ _ own group below tree h
    | drawing kept vector =>
      rw [styleNode_drawing kept vector] at h
      obtain rfl := Option.some.inj h
      exact drawing _ _ _ _ _ own vector
    | box kept noGroup noVector =>
      rw [styleNode_box kept noGroup noVector] at h
      obtain rfl := Option.some.inj h
      refine box _ _ _ _ _ _ own noGroup noVector fun c' hc' => ?_
      obtain ⟨c, hc, rfl⟩ := List.mem_map.mp hc'
      exact below c hc

/-- a property of the nodes of styled trees, whatever their parents make of them: it is shown for
stacks, and for all other nodes with their children, which a vector does not have -/
theorem forall_preOrder_styleNode (p : Policy) {D : NodeData → Prop} {Q : StyledNode → Prop}
    (bare : ∀ m, Q m.bare ↔ Q m)
    (stack : ∀ parent r d name children, D d → d.kind = .group →
      Q ⟨{ source := d, uniqueName := name, styles := stackStyles d parent, rotation := r },
        children⟩)
    (node : ∀ parent r d hasChildren name children, D d → d.kind ≠ .group →
      (d.kind.isVector = true → children = []) →
        Q ⟨nodeData p parent r d hasChildren name, children⟩)
    (n : DesignNode) : (∀ m ∈ n.preOrder, D m.toNodeData) → ∀ parent r names,
      ∀ tree ∈ (styleNode p parent r n names).1, ∀ m ∈ tree.preOrder, Q m := by
  refine forall_styleNode p (P := fun _ tree => ∀ m ∈ tree.preOrder, Q m) ?wrapper ?stack ?drawing
    ?box n
  case wrapper =>
    exact fun _ _ _ c _ _ h => (StyledNode.forall_preOrder_congr bare (bare_restyle _ c)).mpr h
  case stack =>
    intro parent r d mask name children own group below tree h
    obtain rfl := eq_of_stack? h
    refine StyledNode.forall_preOrder_mk.mpr ⟨stack parent r d name _ own group, fun c' hc' => ?_⟩
    obtain ⟨c, hc, rfl⟩ := List.mem_map.mp hc'
    exact (StyledNode.forall_preOrder_congr bare (bare_onStack ..)).mpr (below c hc)
  case drawing =>
    intro parent r d hasChildren name own vector
    refine StyledNode.forall_preOrder_mk.mpr ⟨?_, List.forall_mem_nil _⟩
    exact node parent r d hasChildren name [] own (not_group_of_isVector vector) fun _ => rfl
  case box =>
    intro parent r d hasChildren name children own noGroup noVector below
    refine (StyledNode.forall_preOrder_congr bare (bare_settle _)).mpr
      (StyledNode.forall_preOrder_mk.mpr ⟨?_, below⟩)
    refine node parent r d hasChildren name children own noGroup fun vector => ?_
    rw [noVector] at vector
    cases vector

end Handoff.Styling
