import Handoff.Proofs.Design.Walk
import Handoff.Proofs.Styling.Role

/-!
# Which nodes of a design are in the styled tree

Styling leaves nodes out, but it neither invents, repeats nor reorders any.  `shown` lists the nodes
that are left in, each at its address, and is computed along with `styleNode`:

* `sources_styleNode`     the sources of the styled tree are the nodes that are shown, in order;
* `shown_sublist`         these are a part of the walk over the design;
* `not_mem_shown_iff`     a node is left out for one of five reasons (`Missing`), and for no other;
* `style_content`         the three together, for the styled tree of a session.

`Missing` speaks about the design and about what is left of the children of a stack, not about the
recursion of `styleNode`: the induction over addresses joins the two.
-/

namespace Handoff.Styling
open DesignNode Address StyledNode

mutual
/-- the nodes of a tree that are in its styled tree -/
def shown (p : Policy) (n : DesignNode) : List (Address × DesignNode) :=
  match n with
  | ⟨d, cs⟩ =>
    if !p.keeps d then []
    else if d.kind = .group then
      match keptData p cs with
      | [] => []
      | [_] => shownFrom p false 0 cs
      | _ =>
        let below := shownFrom p true 0 cs
        if below.isEmpty then [] else ([], ⟨d, cs⟩) :: below
    else if d.kind.isVector then [([], ⟨d, cs⟩)]
    else ([], ⟨d, cs⟩) :: shownFrom p false 0 cs
termination_by structural n

/-- the same for the children from the `i`-th on; where `masked`, a mask in front is left out -/
def shownFrom (p : Policy) (masked : Bool) (i : Nat) (ns : List DesignNode) :
    List (Address × DesignNode) :=
  match ns with
  | [] => []
  | n :: ns =>
    if masked && p.keeps n.toNodeData && n.isMask then shownFrom p false (i + 1) ns
    else (shown p n).map (under i) ++ shownFrom p (masked && !p.keeps n.toNodeData) (i + 1) ns
termination_by structural ns
end

section
variable {p : Policy} {d : NodeData} {cs : List DesignNode} {masked : Bool} {i : Nat}
  {n : DesignNode} {ns : List DesignNode}

theorem shown_dropped (hidden : p.keeps d = false) : shown p ⟨d, cs⟩ = [] := by
  simp only [shown, hidden, Bool.not_false, if_true]

theorem shown_emptyGroup (kept : p.keeps d = true) (group : d.kind = .group)
    (children : keptData p cs = []) : shown p ⟨d, cs⟩ = [] := by
  simp only [shown, kept, group, children, Bool.not_true, Bool.false_eq_true, if_false, if_true]

theorem shown_wrapper (kept : p.keeps d = true) (group : d.kind = .group) {only : NodeData}
    (children : keptData p cs = [only]) : shown p ⟨d, cs⟩ = shownFrom p false 0 cs := by
  simp only [shown, kept, group, children, Bool.not_true, Bool.false_eq_true, if_false, if_true]

theorem shown_stack (kept : p.keeps d = true) (group : d.kind = .group)
    {first second : NodeData} {rest : List NodeData}
    (children : keptData p cs = first :: second :: rest) :
    shown p ⟨d, cs⟩ = if (shownFrom p true 0 cs).isEmpty then []
      else ([], ⟨d, cs⟩) :: shownFrom p true 0 cs := by
  simp only [shown, kept, group, children, Bool.not_true, Bool.false_eq_true, if_false, if_true]

theorem shown_drawing (kept : p.keeps d = true) (vector : d.kind.isVector = true) :
    shown p ⟨d, cs⟩ = [([], ⟨d, cs⟩)] := by
  simp only [shown, kept, not_group_of_isVector vector, vector, Bool.not_true, Bool.false_eq_true,
    if_false, if_true]

theorem shown_box (kept : p.keeps d = true) (noGroup : d.kind ≠ .group)
    (noVector : d.kind.isVector = false) :
    shown p ⟨d, cs⟩ = ([], ⟨d, cs⟩) :: shownFrom p false 0 cs := by
  simp only [shown, kept, noGroup, noVector, Bool.not_true, Bool.false_eq_true, if_false]

theorem shownFrom_mask (kept : p.keeps n.toNodeData = true) (mask : n.isMask = true) :
    shownFrom p true i (n :: ns) = shownFrom p false (i + 1) ns := by
  simp only [shownFrom, kept, mask, Bool.and_self, if_true]

theorem shownFrom_cons (h : (masked && p.keeps n.toNodeData && n.isMask) = false) :
    shownFrom p masked i (n :: ns) = (shown p n).map (under i)
      ++ shownFrom p (masked && !p.keeps n.toNodeData) (i + 1) ns := by
  simp only [shownFrom, h, Bool.false_eq_true, if_false]

end

/-! ## the sources of the styled tree -/

/-- the design nodes that the nodes of a styled tree come from, in the order of the walk -/
def sources (tree : Option StyledNode) : List NodeData :=
  (tree.toList.flatMap StyledNode.preOrder).map fun n => n.source

theorem sources_eq (tree : Option StyledNode) : sources tree = (originsOf tree).map Prod.fst :=
  (map_originsOf Prod.fst tree).symm

theorem sources_eq_nil_iff {tree : Option StyledNode} : sources tree = [] ↔ tree = none := by
  rw [sources_eq, List.map_eq_nil_iff, originsOf_eq_nil_iff]

def data (es : List (Address × DesignNode)) : List NodeData := es.map fun e => e.2.toNodeData

theorem data_append (a b : List (Address × DesignNode)) : data (a ++ b) = data a ++ data b :=
  List.map_append

theorem data_under (i : Nat) (es : List (Address × DesignNode)) :
    data (es.map (under i)) = data es := by
  unfold data
  rw [List.map_map]
  rfl

theorem sources_styleNode (p : Policy) (n : DesignNode) : ∀ parent r names,
    (originsOf (styleNode p parent r n names).1).map Prod.fst = data (shown p n) := by
  induction n using DesignNode.forest
    (Q := fun ns => ∀ masked i parent r names,
      (originsAll (styleAll p parent r masked ns names).1).map Prod.fst
        = data (shownFrom p masked i ns)) with
  | node d cs ih =>
    intro parent r names
    cases Role.of p d cs with
    | dropped hidden => rw [styleNode_dropped hidden, shown_dropped hidden]; rfl
    | emptyGroup kept group children =>
      rw [styleNode_emptyGroup kept group children, shown_emptyGroup kept group children]; rfl
    | wrapper kept group only children =>
      rw [styleNode_wrapper kept group children, shown_wrapper kept group children]
      dsimp only
      rw [originsOf_patched (length_styleAll_le_one children), ih]
    | stack kept group first second rest children =>
      rw [styleNode_stack kept group children, shown_stack kept group children]
      dsimp only
      rw [originsOf_stack?]
      have below := ih true 0 (stackContext d parent) (r + d.rotationDegrees)
        (names.issue d.name).2
      generalize (styleAll p (stackContext d parent) (r + d.rotationDegrees) true cs
        (names.issue d.name).2).1 = styled at below ⊢
      -- the stack is empty just when nothing below it is shown
      have empty : styled.isEmpty = (shownFrom p true 0 cs).isEmpty := by
        have h : styled = [] ↔ shownFrom p true 0 cs = [] := by
          rw [← originsAll_eq_nil_iff, ← List.map_eq_nil_iff, below]
          exact List.map_eq_nil_iff
        rw [Bool.eq_iff_iff, List.isEmpty_iff, List.isEmpty_iff, h]
      rw [empty]
      split
      · rfl
      · rw [List.map_cons, below]
        rfl
    | drawing kept vector => rw [styleNode_drawing kept vector, shown_drawing kept vector]; rfl
    | box kept noGroup noVector =>
      rw [styleNode_box kept noGroup noVector, shown_box kept noGroup noVector]
      dsimp only
      rw [originsOf_settle, List.map_cons, ih]
      rfl
  | nil => rfl
  | cons n ns ih ihs masked i parent r names =>
    cases h : masked && p.keeps n.toNodeData && n.isMask with
    | true =>
      simp only [Bool.and_eq_true] at h
      rw [h.1.1, styleAll_mask h.1.2 h.2, shownFrom_mask h.1.2 h.2]
      exact ihs false (i + 1) parent r names
    | false =>
      rw [styleAll_cons h, shownFrom_cons h, data_append, data_under]
      dsimp only
      rw [originsAll_append, originsAll_toList, List.map_append, ih, ihs _ (i + 1)]

/-- what the nodes of a styled tree come from is shown -/
theorem exists_shown {p : Policy} {n : DesignNode} {parent : ParentContext} {r : Float}
    {names : NameRegistry} {tree : StyledNode} (h : (styleNode p parent r n names).1 = some tree) :
    ∀ m ∈ tree.preOrder, ∃ e ∈ shown p n, e.2.toNodeData = m.source := by
  intro m hm
  have sources := (sources_eq _).trans (sources_styleNode p n parent r names)
  rw [h] at sources
  have there : m.source ∈ data (shown p n) := by
    rw [← sources]
    exact List.mem_map_of_mem (by rwa [Option.toList_some, List.flatMap_singleton])
  exact List.mem_map.mp there

/-! ## the shown nodes among all -/

theorem shown_sublist (p : Policy) (n : DesignNode) : (shown p n).Sublist n.located := by
  induction n using DesignNode.forest
    (Q := fun ns => ∀ masked i, (shownFrom p masked i ns).Sublist (locatedFrom i ns)) with
  | node d cs ih =>
    rw [located_mk]
    cases Role.of p d cs with
    | dropped hidden => rw [shown_dropped hidden]; exact List.nil_sublist _
    | emptyGroup kept group children =>
      rw [shown_emptyGroup kept group children]; exact List.nil_sublist _
    | wrapper kept group only children =>
      rw [shown_wrapper kept group children]; exact (ih false 0).cons _
    | stack kept group first second rest children =>
      rw [shown_stack kept group children]
      split
      · exact List.nil_sublist _
      · exact (ih true 0).cons_cons _
    | drawing kept vector =>
      rw [shown_drawing kept vector]; exact (List.nil_sublist _).cons_cons _
    | box kept noGroup noVector =>
      rw [shown_box kept noGroup noVector]; exact (ih false 0).cons_cons _
  | nil => exact List.Sublist.refl _
  | cons n ns ih ihs masked i =>
    rw [locatedFrom_cons]
    cases h : masked && p.keeps n.toNodeData && n.isMask with
    | true =>
      simp only [Bool.and_eq_true] at h
      rw [h.1.1, shownFrom_mask h.1.2 h.2]
      exact (ihs false (i + 1)).trans (List.sublist_append_right ..)
    | false =>
      rw [shownFrom_cons h]
      exact (ih.map (under i)).append (ihs _ (i + 1))

/-- the first child that is kept, where that is a mask -/
def LeadsAsMask (p : Policy) (ns : List DesignNode) (i : Nat) : Prop :=
  ∃ c, ns[i]? = some c ∧ p.keeps c.toNodeData = true ∧ c.isMask = true ∧
    ∀ j e, j < i → ns[j]? = some e → p.keeps e.toNodeData = false

theorem leadsAsMask_zero {p : Policy} {n : DesignNode} {ns : List DesignNode} :
    LeadsAsMask p (n :: ns) 0 ↔ p.keeps n.toNodeData = true ∧ n.isMask = true := by
  constructor
  · rintro ⟨c, hc, kept, mask, _⟩
    obtain rfl : n = c := Option.some.inj hc
    exact ⟨kept, mask⟩
  · rintro ⟨kept, mask⟩
    exact ⟨n, rfl, kept, mask, fun j _ hj => absurd hj (Nat.not_lt_zero j)⟩

theorem leadsAsMask_succ {p : Policy} {n : DesignNode} {ns : List DesignNode} {i : Nat} :
    LeadsAsMask p (n :: ns) (i + 1) ↔ p.keeps n.toNodeData = false ∧ LeadsAsMask p ns i := by
  constructor
  · rintro ⟨c, hc, kept, mask, before⟩
    exact ⟨before 0 n (Nat.succ_pos i) rfl, c, hc, kept, mask,
      fun j e hj => before (j + 1) e (Nat.succ_lt_succ hj)⟩
  · rintro ⟨hidden, c, hc, kept, mask, before⟩
    refine ⟨c, hc, kept, mask, fun j e hj he => ?_⟩
    cases j with
    | zero =>
      obtain rfl : n = e := Option.some.inj he
      exact hidden
    | succ j => exact before j e (Nat.lt_of_succ_lt_succ hj) he

theorem mem_shownFrom {p : Policy} {masked : Bool} {k : Nat} {ns : List DesignNode} {a : Address}
    {m : DesignNode} : (a, m) ∈ shownFrom p masked k ns ↔
      ∃ i c b, ns[i]? = some c ∧ (b, m) ∈ shown p c ∧ a = (k + i) :: b ∧
        ¬ (masked = true ∧ LeadsAsMask p ns i) := by
  induction ns generalizing masked k with
  | nil => simp [shownFrom]
  | cons n ns ih =>
    cases h : masked && p.keeps n.toNodeData && n.isMask with
    | true =>
      simp only [Bool.and_eq_true] at h
      obtain ⟨⟨rfl, kept⟩, mask⟩ := h
      rw [shownFrom_mask kept mask, ih]
      constructor
      · rintro ⟨i, c, b, hc, hb, rfl, _⟩
        refine ⟨i + 1, c, b, hc, hb, by rw [Nat.add_assoc, Nat.add_comm 1], fun hm => ?_⟩
        exact Bool.false_ne_true ((leadsAsMask_succ.mp hm.2).1.symm.trans kept)
      · rintro ⟨i, c, b, hc, hb, rfl, hm⟩
        cases i with
        | zero => exact absurd ⟨rfl, leadsAsMask_zero.mpr ⟨kept, mask⟩⟩ hm
        | succ i =>
          exact ⟨i, c, b, hc, hb, by rw [Nat.add_assoc, Nat.add_comm 1],
            fun h => Bool.false_ne_true h.1⟩
    | false =>
      rw [shownFrom_cons h, List.mem_append, ih, List.mem_map]
      constructor
      · rintro (⟨⟨b, m'⟩, hb, e⟩ | ⟨i, c, b, hc, hb, rfl, hm⟩)
        · obtain ⟨rfl, rfl⟩ := Prod.mk.inj e
          refine ⟨0, n, b, rfl, hb, rfl, fun ⟨hmask, lead⟩ => ?_⟩
          obtain ⟨kept, mask⟩ := leadsAsMask_zero.mp lead
          rw [hmask, kept, mask] at h
          cases h
        · refine ⟨i + 1, c, b, hc, hb, by rw [Nat.add_assoc, Nat.add_comm 1],
            fun ⟨hmask, lead⟩ => hm ?_⟩
          obtain ⟨hidden, lead⟩ := leadsAsMask_succ.mp lead
          exact ⟨by rw [hmask, hidden]; rfl, lead⟩
      · rintro ⟨i, c, b, hc, hb, rfl, hm⟩
        cases i with
        | zero =>
          obtain rfl : n = c := Option.some.inj hc
          exact .inl ⟨(b, m), hb, rfl⟩
        | succ i =>
          refine .inr ⟨i, c, b, hc, hb, by rw [Nat.add_assoc, Nat.add_comm 1],
            fun ⟨hmask, lead⟩ => hm ?_⟩
          simp only [Bool.and_eq_true, Bool.not_eq_true'] at hmask
          exact ⟨hmask.1, leadsAsMask_succ.mpr ⟨hmask.2, lead⟩⟩

/-- a child never takes the place of its parent -/
theorem nil_not_mem_shownFrom {p : Policy} {masked : Bool} {k : Nat} {ns : List DesignNode}
    {m : DesignNode} : ([], m) ∉ shownFrom p masked k ns := by
  intro h
  obtain ⟨_, _, _, _, _, e, _⟩ := mem_shownFrom.mp h
  cases e

/-- the mask of a stack: the first child that is kept, where that is a mask, and others follow -/
def IsMaskOf (p : Policy) (g : DesignNode) (i : Nat) : Prop :=
  g.kind = .group ∧ 2 ≤ (keptData p g.children).length ∧ LeadsAsMask p g.children i

/-- what is shown of the `i`-th child is shown of its parent too -/
def Opens (p : Policy) (n : DesignNode) (i : Nat) : Prop :=
  p.keeps n.toNodeData = true ∧ n.kind.isVector = false ∧ ¬ IsMaskOf p n i

theorem keeps_of_mem_shown {p : Policy} {n : DesignNode} {e : Address × DesignNode}
    (h : e ∈ shown p n) : p.keeps n.toNodeData = true := by
  obtain ⟨d, cs⟩ := n
  cases kept : p.keeps d with
  | true => rfl
  | false =>
    rw [shown_dropped kept] at h
    exact absurd h List.not_mem_nil

theorem mem_keptData {p : Policy} {c : DesignNode} {cs : List DesignNode} {i : Nat}
    (hc : cs[i]? = some c) (kept : p.keeps c.toNodeData = true) : c.toNodeData ∈ keptData p cs :=
  List.mem_filter.mpr ⟨List.mem_map_of_mem (List.mem_of_getElem? hc), kept⟩

/-- below a node that is kept, all that is shown of its children is shown, but for its mask -/
theorem cons_mem_shown {p : Policy} {n m : DesignNode} {i : Nat} {b : Address} :
    (i :: b, m) ∈ shown p n ↔
      Opens p n i ∧ ∃ c, n.children[i]? = some c ∧ (b, m) ∈ shown p c := by
  obtain ⟨d, cs⟩ := n
  have root (es : List (Address × DesignNode)) :
      (i :: b, m) ∈ ([], ⟨d, cs⟩) :: es ↔ (i :: b, m) ∈ es := by simp
  have below (masked : Bool) : (i :: b, m) ∈ shownFrom p masked 0 cs ↔
      (∃ c, cs[i]? = some c ∧ (b, m) ∈ shown p c) ∧ ¬ (masked = true ∧ LeadsAsMask p cs i) := by
    rw [mem_shownFrom]
    constructor
    · rintro ⟨j, c, b', hc, hb, e, hm⟩
      rw [Nat.zero_add] at e
      obtain ⟨rfl, rfl⟩ := List.cons.inj e
      exact ⟨⟨c, hc, hb⟩, hm⟩
    · rintro ⟨⟨c, hc, hb⟩, hm⟩
      exact ⟨i, c, b, hc, hb, by rw [Nat.zero_add], hm⟩
  cases Role.of p d cs with
  | dropped hidden =>
    rw [shown_dropped hidden]
    exact iff_of_false List.not_mem_nil fun h => Bool.false_ne_true (hidden.symm.trans h.1.1)
  | emptyGroup kept group children =>
    rw [shown_emptyGroup kept group children]
    refine iff_of_false List.not_mem_nil fun ⟨_, c, hc, hb⟩ => ?_
    have := mem_keptData hc (keeps_of_mem_shown hb)
    rw [children] at this
    exact List.not_mem_nil this
  | wrapper kept group only children =>
    have noMask : ¬ IsMaskOf p ⟨d, cs⟩ i := by
      rintro ⟨_, many, _⟩
      rw [show keptData p cs = [only] from children] at many
      exact absurd many (by decide : ¬ 2 ≤ 1)
    have noVector : d.kind.isVector = false := by rw [group]; rfl
    rw [shown_wrapper kept group children, below]
    exact ⟨fun h => ⟨⟨kept, noVector, noMask⟩, h.1⟩, fun h => ⟨h.2, fun hm => nomatch hm.1⟩⟩
  | stack kept group first second rest children =>
    have many : 2 ≤ (keptData p cs).length := by
      rw [children, List.length_cons, List.length_cons]
      omega
    have noVector : d.kind.isVector = false := by rw [group]; rfl
    have shown : (i :: b, m) ∈ shown p ⟨d, cs⟩ ↔ (i :: b, m) ∈ shownFrom p true 0 cs := by
      rw [shown_stack kept group children]
      split
      · next h => rw [List.isEmpty_iff.mp h]
      · exact root _
    rw [shown, below]
    exact ⟨fun h => ⟨⟨kept, noVector, fun hm => h.2 ⟨rfl, hm.2.2⟩⟩, h.1⟩,
      fun h => ⟨h.2, fun hm => h.1.2.2 ⟨group, many, hm.2⟩⟩⟩
  | drawing kept vector =>
    rw [shown_drawing kept vector, root]
    exact iff_of_false List.not_mem_nil fun h => Bool.false_ne_true (h.1.2.1.symm.trans vector)
  | box kept noGroup noVector =>
    rw [shown_box kept noGroup noVector, root, below]
    exact ⟨fun h => ⟨⟨kept, noVector, fun hm => noGroup hm.1⟩, h.1⟩,
      fun h => ⟨h.2, fun hm => nomatch hm.1⟩⟩

/-- a node itself is shown where it is kept; a group is, where it stacks something -/
theorem nil_mem_shown {p : Policy} {n m : DesignNode} : ([], m) ∈ shown p n ↔
    m = n ∧ p.keeps n.toNodeData = true ∧ (n.kind = .group →
      2 ≤ (keptData p n.children).length ∧ ∃ i b m', (i :: b, m') ∈ shown p n) := by
  obtain ⟨d, cs⟩ := n
  have root (es : List (Address × DesignNode)) (h : ([], m) ∉ es) :
      ([], m) ∈ ([], ⟨d, cs⟩) :: es ↔ m = ⟨d, cs⟩ := by
    rw [List.mem_cons, or_iff_left h, Prod.mk.injEq]
    exact and_iff_right rfl
  cases Role.of p d cs with
  | dropped hidden =>
    rw [shown_dropped hidden]
    exact iff_of_false List.not_mem_nil fun h => Bool.false_ne_true (hidden.symm.trans h.2.1)
  | emptyGroup kept group children =>
    rw [shown_emptyGroup kept group children]
    refine iff_of_false List.not_mem_nil fun ⟨_, _, h⟩ => ?_
    have many := (h group).1
    rw [show keptData p cs = [] from children] at many
    exact absurd many (by decide : ¬ 2 ≤ 0)
  | wrapper kept group only children =>
    rw [shown_wrapper kept group children]
    refine iff_of_false nil_not_mem_shownFrom fun ⟨_, _, h⟩ => ?_
    have many := (h group).1
    rw [show keptData p cs = [only] from children] at many
    exact absurd many (by decide : ¬ 2 ≤ 1)
  | stack kept group first second rest children =>
    have many : 2 ≤ (keptData p cs).length := by
      rw [children, List.length_cons, List.length_cons]
      omega
    rw [shown_stack kept group children]
    split
    · next h =>
      exact iff_of_false List.not_mem_nil fun ⟨_, _, h⟩ =>
        let ⟨_, _, _, hb⟩ := (h group).2
        List.not_mem_nil hb
    · next h =>
      rw [root _ nil_not_mem_shownFrom]
      refine ⟨fun e => ⟨e, kept, fun _ => ⟨many, ?_⟩⟩, fun h => h.1⟩
      obtain ⟨⟨a, m'⟩, hm⟩ := List.exists_mem_of_ne_nil _ (mt List.isEmpty_iff.mpr h)
      obtain ⟨i, c, b, _, _, rfl, _⟩ := mem_shownFrom.mp hm
      exact ⟨0 + i, b, m', List.mem_cons_of_mem _ hm⟩
  | drawing kept vector =>
    rw [shown_drawing kept vector, root _ List.not_mem_nil]
    exact ⟨fun e => ⟨e, kept, fun group => absurd group (not_group_of_isVector vector)⟩,
      fun h => h.1⟩
  | box kept noGroup noVector =>
    rw [shown_box kept noGroup noVector, root _ nil_not_mem_shownFrom]
    exact ⟨fun e => ⟨e, kept, fun group => absurd group noGroup⟩, fun h => h.1⟩

/-- what is shown is kept -/
theorem kept_of_mem_shown {p : Policy} {n m : DesignNode} {a : Address} (h : (a, m) ∈ shown p n) :
    p.keeps m.toNodeData = true := by
  induction a generalizing n with
  | nil =>
    obtain ⟨rfl, kept, -⟩ := nil_mem_shown.mp h
    exact kept
  | cons i a ih =>
    obtain ⟨-, c, -, below⟩ := cons_mem_shown.mp h
    exact ih below

/-! ## the missing nodes -/

/-- why the node at an address of a design is not in its styled tree, where `left` are the nodes
that are -/
inductive Missing (p : Policy) (root : DesignNode) (left : List (Address × DesignNode))
    (a : Address) : Prop
  /-- hidden nodes are dropped, and the node is hidden or lies below a hidden one -/
  | hidden (drop : p.hidden = .drop) {b : Address} {n : DesignNode} (hn : (b, n) ∈ root.located)
      (above : b <+: a) (invisible : n.visible = false)
  /-- it lies below a vector, which is drawn as a whole -/
  | inDrawing {b : Address} {n : DesignNode} (hn : (b, n) ∈ root.located) (above : b <+: a)
      (below : b ≠ a) (vector : n.kind.isVector = true)
  /-- it is the mask of a stack, or lies below it -/
  | inMask {b : Address} {g : DesignNode} {i : Nat} (hg : (b, g) ∈ root.located)
      (above : b ++ [i] <+: a) (mask : IsMaskOf p g i)
  /-- it is a group with at most one child that is kept -/
  | thinGroup {g : DesignNode} (hg : (a, g) ∈ root.located) (group : g.kind = .group)
      (thin : (keptData p g.children).length ≤ 1)
  /-- it is a group of several that are kept, and nothing is left of those but the mask -/
  | bareStack {g : DesignNode} (hg : (a, g) ∈ root.located) (group : g.kind = .group)
      (many : 2 ≤ (keptData p g.children).length)
      (bare : ∀ i c, g.children[i]? = some c → p.keeps c.toNodeData = true → ¬ IsMaskOf p g i →
        ∀ e ∈ left, ¬ a ++ [i] <+: e.1)

theorem keeps_eq_false_iff {p : Policy} {d : NodeData} :
    p.keeps d = false ↔ p.hidden = .drop ∧ d.visible = false := by
  unfold Policy.keeps
  cases d.visible <;> cases p.hidden <;> simp

/-- nothing below a child that is not opened is left -/
theorem missing_of_not_opens {p : Policy} {n : DesignNode} {left : List (Address × DesignNode)}
    {i : Nat} (h : ¬ Opens p n i) (b : Address) : Missing p n left (i :: b) := by
  have root : ([], n) ∈ n.located := nil_mem_located.mpr rfl
  by_cases kept : p.keeps n.toNodeData = true
  · by_cases vector : n.kind.isVector = true
    · exact .inDrawing root List.nil_prefix (fun e => nomatch e) vector
    · refine .inMask root (List.cons_prefix_cons.mpr ⟨rfl, List.nil_prefix⟩) ?_
      exact Classical.byContradiction fun mask => h ⟨kept, Bool.eq_false_iff.mpr vector, mask⟩
  · obtain ⟨drop, invisible⟩ := keeps_eq_false_iff.mp (Bool.eq_false_iff.mpr kept)
    exact .hidden drop root List.nil_prefix invisible

/-- below a child that is opened the reasons are those within the child -/
theorem cons_missing {p : Policy} {n c : DesignNode} {i : Nat} (hc : n.children[i]? = some c)
    (h : Opens p n i) {b : Address} :
    Missing p n (shown p n) (i :: b) ↔ Missing p c (shown p c) b := by
  have located {a : Address} {m : DesignNode} : (i :: a, m) ∈ n.located ↔ (a, m) ∈ c.located := by
    rw [cons_mem_located]
    exact ⟨fun ⟨c', hc', hm⟩ => Option.some.inj (hc.symm.trans hc') ▸ hm, fun hm => ⟨c, hc, hm⟩⟩
  constructor
  · intro hm
    cases hm with
    | @hidden drop a m hm above invisible =>
      cases a with
      | nil =>
        rw [nil_mem_located.mp hm] at invisible
        exact absurd (keeps_eq_false_iff.mpr ⟨drop, invisible⟩) (by rw [h.1]; decide)
      | cons j a =>
        obtain ⟨rfl, within⟩ := List.cons_prefix_cons.mp above
        exact .hidden drop (located.mp hm) within invisible
    | @inDrawing a m hm above below vector =>
      cases a with
      | nil =>
        rw [nil_mem_located.mp hm, h.2.1] at vector
        cases vector
      | cons j a =>
        obtain ⟨rfl, within⟩ := List.cons_prefix_cons.mp above
        exact .inDrawing (located.mp hm) within (fun e => below (congrArg _ e)) vector
    | @inMask a g j hg above mask =>
      cases a with
      | nil =>
        obtain ⟨rfl, _⟩ := List.cons_prefix_cons.mp above
        rw [nil_mem_located.mp hg] at mask
        exact absurd mask h.2.2
      | cons k a =>
        obtain ⟨rfl, within⟩ := List.cons_prefix_cons.mp above
        exact .inMask (located.mp hg) within mask
    | thinGroup hg group thin => exact .thinGroup (located.mp hg) group thin
    | bareStack hg group many bare =>
      refine .bareStack (located.mp hg) group many fun j e he kept noMask f hf ht => ?_
      refine bare j e he kept noMask (i :: f.1, f.2) ?_ (List.cons_prefix_cons.mpr ⟨rfl, ht⟩)
      exact cons_mem_shown.mpr ⟨h, c, hc, hf⟩
  · intro hm
    cases hm with
    | hidden drop hn above invisible =>
      exact .hidden drop (located.mpr hn) (List.cons_prefix_cons.mpr ⟨rfl, above⟩) invisible
    | inDrawing hn above below vector =>
      exact .inDrawing (located.mpr hn) (List.cons_prefix_cons.mpr ⟨rfl, above⟩)
        (fun e => below (List.cons.inj e).2) vector
    | inMask hg above mask =>
      exact .inMask (located.mpr hg) (List.cons_prefix_cons.mpr ⟨rfl, above⟩) mask
    | thinGroup hg group thin => exact .thinGroup (located.mpr hg) group thin
    | bareStack hg group many bare =>
      refine .bareStack (located.mpr hg) group many fun j e he kept noMask ⟨f, m⟩ hf ht => ?_
      obtain ⟨t, rfl⟩ := ht
      obtain ⟨_, c', hc', hf⟩ := cons_mem_shown.mp hf
      obtain rfl := Option.some.inj (hc.symm.trans hc')
      exact bare j e he kept noMask _ hf (List.prefix_append ..)

/-- a root is missing where it is hidden, and where it is a group without a stack -/
theorem nil_missing {p : Policy} {n : DesignNode} :
    Missing p n (shown p n) [] ↔ ([], n) ∉ shown p n := by
  rw [nil_mem_shown]
  constructor
  · rintro hm ⟨_, kept, stacked⟩
    cases hm with
    | @hidden drop a m hm above invisible =>
      obtain rfl := List.prefix_nil.mp above
      rw [nil_mem_located.mp hm] at invisible
      exact absurd (keeps_eq_false_iff.mpr ⟨drop, invisible⟩) (by rw [kept]; decide)
    | inDrawing hm above below => exact below (List.prefix_nil.mp above)
    | inMask hg above => exact absurd (List.prefix_nil.mp above) (by simp)
    | thinGroup hg group thin =>
      obtain rfl := nil_mem_located.mp hg
      exact absurd (stacked group).1 (by omega)
    | bareStack hg group many bare =>
      obtain rfl := nil_mem_located.mp hg
      obtain ⟨_, i, b, m, hm⟩ := stacked group
      obtain ⟨⟨_, _, noMask⟩, c, hc, hb⟩ := cons_mem_shown.mp hm
      exact bare i c hc (keeps_of_mem_shown hb) noMask _ hm
        (List.cons_prefix_cons.mpr ⟨rfl, List.nil_prefix⟩)
  · intro h
    have root : ([], n) ∈ n.located := nil_mem_located.mpr rfl
    by_cases kept : p.keeps n.toNodeData = true
    · by_cases group : n.kind = .group
      · by_cases many : 2 ≤ (keptData p n.children).length
        · refine .bareStack root group many fun i c _ _ _ ⟨a, m⟩ he above => ?_
          obtain ⟨b, rfl⟩ := above
          exact h ⟨rfl, kept, fun _ => ⟨many, i, b, m, he⟩⟩
        · exact .thinGroup root group (by omega)
      · exact absurd ⟨rfl, kept, fun g => absurd g group⟩ h
    · obtain ⟨drop, invisible⟩ := keeps_eq_false_iff.mp (Bool.eq_false_iff.mpr kept)
      exact .hidden drop root List.nil_prefix invisible

/-- a node is left out exactly for one of the reasons of `Missing` -/
theorem not_mem_shown_iff (p : Policy) (a : Address) : ∀ {n m : DesignNode},
    (a, m) ∈ n.located → ((a, m) ∉ shown p n ↔ Missing p n (shown p n) a) := by
  induction a with
  | nil =>
    intro n m hm
    rw [nil_mem_located.mp hm]
    exact nil_missing.symm
  | cons i b ih =>
    intro n m hm
    obtain ⟨c, hc, hb⟩ := cons_mem_located.mp hm
    by_cases h : Opens p n i
    · rw [cons_missing hc h, ← ih hb, cons_mem_shown]
      refine not_congr ⟨fun ⟨_, c', hc', hb⟩ => ?_, fun hb => ⟨h, c, hc, hb⟩⟩
      exact Option.some.inj (hc.symm.trans hc') ▸ hb
    · exact iff_of_true (fun hm => h (cons_mem_shown.mp hm).1) (missing_of_not_opens h b)

/-- **Styling neither loses, repeats nor reorders.**  The sources of a styled tree are a part of the
walk over the design, in which no node comes twice; a node is missing from it exactly for one of the
reasons of `Missing`; and there is no styled tree exactly if all nodes are missing. -/
theorem style_content (s : Session) (root : DesignNode) :
    ∃ left : List (Address × DesignNode),
      root.located.map Prod.snd = root.preOrder ∧ left.Sublist root.located ∧
      (left.map Prod.fst).Nodup ∧
      sources (s.style root).1 = left.map (fun e => e.2.toNodeData) ∧
      (∀ e ∈ root.located, e ∉ left ↔ Missing s.policy root left e.1) ∧
      ((s.style root).1 = none ↔ ∀ e ∈ root.located, e ∉ left) := by
  have part := shown_sublist s.policy root
  have same : sources (s.style root).1 = data (shown s.policy root) :=
    (sources_eq _).trans (sources_styleNode s.policy root {} 0.0 s.names)
  refine ⟨shown s.policy root, map_snd_located root, part,
    (part.map Prod.fst).nodup (nodup_located root), same,
    fun e he => not_mem_shown_iff s.policy e.1 he, ?_⟩
  rw [← sources_eq_nil_iff, same]
  constructor
  · intro none e _
    rw [List.map_eq_nil_iff.mp none]
    exact List.not_mem_nil
  · intro h
    refine List.map_eq_nil_iff.mpr (List.eq_nil_iff_forall_not_mem.mpr fun e he => ?_)
    exact h e (part.subset he) he

end Handoff.Styling
