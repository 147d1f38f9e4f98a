import Handoff.Proofs.Generation.Elements
import Handoff.Proofs.Styling.Bare
import Handoff.Proofs.Styling.Content

/-!
# What hidden nodes hide

A hidden node has no element, and neither has anything below it.  There is one exception: a group
gives way to an only child, and whether the group was visible is then forgotten.

* `GivesWay`             groups with one child that is kept;
* `Clear`                nothing on the way down to an address is hidden, but for such groups;
* `written_clear`        the way down to a written node is clear;
* `elements_clear`       so is the way down to each node that has an element in generated code.
-/

namespace Handoff.Styling
open DesignNode Address StyledNode

/-- a group that gives way to the only child that is kept of it -/
def GivesWay (p : Policy) (n : DesignNode) : Prop :=
  n.kind = .group ∧ (keptData p n.children).length = 1

/-- of the nodes `es` none on the way down to the address is hidden, but for groups that give way
to what is below them -/
def Clear (p : Policy) (es : List (Address × DesignNode)) (a : Address) : Prop :=
  ∀ b m, (b, m) ∈ es → b <+: a → m.visible = true ∨ b ≠ a ∧ GivesWay p m

theorem nil_not_mem_locatedFrom {i : Nat} {ns : List DesignNode} {m : DesignNode} :
    ([], m) ∉ locatedFrom i ns := by
  intro h
  obtain ⟨_, _, _, _, _, e⟩ := mem_locatedFrom.mp h
  cases e

section
variable {p : Policy} {d : NodeData} {cs : List DesignNode} {i : Nat} {n : DesignNode}
  {ns : List DesignNode} {a : Address}

/-- the way to the root is clear where the root is visible -/
theorem clear_root (h : d.visible = true) : Clear p (located ⟨d, cs⟩) [] := by
  intro b m hm hb
  obtain rfl := List.prefix_nil.mp hb
  rw [nil_mem_located.mp hm]
  exact .inl h

/-- below a root that hides nothing the way is clear where it is clear from the children on -/
theorem clear_below (h : d.visible = true ∨ GivesWay p ⟨d, cs⟩) (ha : a ≠ [])
    (clear : Clear p (locatedFrom 0 cs) a) : Clear p (located ⟨d, cs⟩) a := by
  intro b m hm hb
  rw [located_mk, List.mem_cons] at hm
  rcases hm with e | hm
  · obtain ⟨rfl, rfl⟩ := Prod.mk.inj e
    exact h.imp_right fun way => ⟨Ne.symm ha, way⟩
  · exact clear b m hm hb

theorem clear_first (clear : Clear p n.located a) : Clear p (locatedFrom i (n :: ns)) (i :: a) := by
  intro b m hm hb
  rw [locatedFrom_cons, List.mem_append] at hm
  rcases hm with hm | hm
  · obtain ⟨⟨b', m'⟩, hm', e⟩ := List.mem_map.mp hm
    obtain ⟨rfl, rfl⟩ := Prod.mk.inj e
    refine (clear b' m' hm' (List.cons_prefix_cons.mp hb).2).imp_right fun way => ⟨?_, way.2⟩
    exact fun e => way.1 (List.cons.inj e).2
  · obtain ⟨j, c, b', _, _, rfl⟩ := mem_locatedFrom.mp hm
    have := (List.cons_prefix_cons.mp hb).1
    omega

theorem clear_later {j : Nat} (hj : i < j) (clear : Clear p (locatedFrom (i + 1) ns) (j :: a)) :
    Clear p (locatedFrom i (n :: ns)) (j :: a) := by
  intro b m hm hb
  rw [locatedFrom_cons, List.mem_append] at hm
  rcases hm with hm | hm
  · obtain ⟨⟨b', m'⟩, _, e⟩ := List.mem_map.mp hm
    obtain ⟨rfl, rfl⟩ := Prod.mk.inj e
    have := (List.cons_prefix_cons.mp hb).1
    omega
  · exact clear b m hm hb

/-- the nodes at the addresses of a part of the walk to which the way is clear -/
structure Reached (p : Policy) (es left : List (Address × DesignNode)) (w : List NodeData) :
    Prop where
  part : left.Sublist es
  sources : data left = w
  clear : ∀ e ∈ left, Clear p es e.1

theorem Reached.none (p : Policy) (es : List (Address × DesignNode)) : Reached p es [] [] :=
  ⟨List.nil_sublist es, rfl, List.forall_mem_nil _⟩

theorem Reached.ne_nil {left : List (Address × DesignNode)} {w : List NodeData}
    (h : Reached p (locatedFrom i ns) left w) {e : Address × DesignNode} (he : e ∈ left) :
    e.1 ≠ [] := by
  obtain ⟨a, m⟩ := e
  rintro rfl
  exact nil_not_mem_locatedFrom (h.part.subset he)

/-- what is reached from a root that is itself written, alone or with what is below it -/
theorem Reached.root {below : List (Address × DesignNode)} {u w : List NodeData}
    (h : Reached p (locatedFrom 0 cs) below u)
    (root : w = [] ∨ d.visible = true ∧ (w = [d] ∨ w = d :: u)) :
    ∃ left, Reached p (located ⟨d, cs⟩) left w := by
  rcases root with rfl | ⟨visible, rfl | rfl⟩
  · exact ⟨[], .none p _⟩
  · refine ⟨[([], ⟨d, cs⟩)], (List.nil_sublist _).cons_cons _, rfl, ?_⟩
    exact List.forall_mem_singleton.mpr (clear_root visible)
  · refine ⟨([], ⟨d, cs⟩) :: below, h.part.cons_cons _, ?_, ?_⟩
    · exact congrArg (d :: ·) h.sources
    · refine List.forall_mem_cons.mpr ⟨clear_root visible, fun e he => ?_⟩
      exact clear_below (.inl visible) (h.ne_nil he) (h.clear e he)

/-- what is reached in a child and in the children behind it -/
theorem Reached.cons {first later : List (Address × DesignNode)} {u w : List NodeData}
    (hf : Reached p n.located first w) (hl : Reached p (locatedFrom (i + 1) ns) later u) :
    Reached p (locatedFrom i (n :: ns)) (first.map (under i) ++ later) (w ++ u) where
  part := (hf.part.map _).append hl.part
  sources := by rw [data_append, data_under, hf.sources, hl.sources]
  clear := by
    intro e he
    rcases List.mem_append.mp he with he | he
    · obtain ⟨e', he', rfl⟩ := List.mem_map.mp he
      exact clear_first (hf.clear e' he')
    · obtain ⟨a, m⟩ := e
      obtain ⟨j, _, b, _, _, rfl⟩ := mem_locatedFrom.mp (hl.part.subset he)
      exact clear_later (by omega) (hl.clear _ he)

end

/-- **The way down to a written node is clear.** -/
theorem written_clear (p : Policy) (n : DesignNode) : ∀ parent r names,
    ∃ left, Reached p n.located left (writtenOf? (styleNode p parent r n names).1) := by
  induction n using DesignNode.forest
    (Q := fun ns => ∀ masked i parent r names, ∃ left, Reached p (locatedFrom i ns) left
      (writtenOfAll (styleAll p parent r masked ns names).1)) with
  | node d cs ih =>
    intro parent r names
    cases Role.of p d cs with
    | dropped hidden => rw [styleNode_dropped hidden]; exact ⟨[], .none p _⟩
    | emptyGroup kept group children =>
      rw [styleNode_emptyGroup kept group children]; exact ⟨[], .none p _⟩
    | wrapper kept group only children =>
      rw [styleNode_wrapper kept group children]
      dsimp only
      rw [writtenOf?_patched (length_styleAll_le_one children)]
      obtain ⟨left, h⟩ := ih false 0 parent (r + d.rotationDegrees) names
      have way : GivesWay p ⟨d, cs⟩ := ⟨group, congrArg List.length children⟩
      refine ⟨left, h.part.cons _, h.sources, fun e he => ?_⟩
      exact clear_below (.inr way) (h.ne_nil he) (h.clear e he)
    | stack kept group first second rest children =>
      rw [styleNode_stack kept group children]
      obtain ⟨below, h⟩ := ih true 0 (stackContext d parent) (r + d.rotationDegrees)
        (names.issue d.name).2
      exact h.root (writtenOf?_stack? ..)
    | drawing kept vector =>
      rw [styleNode_drawing kept vector]
      have none : Reached p (locatedFrom 0 cs) [] [] := .none p _
      refine none.root ?_
      rw [writtenOf?_some]
      exact writtenOf_mk _ [] rfl
    | box kept noGroup noVector =>
      rw [styleNode_box kept noGroup noVector]
      obtain ⟨below, h⟩ := ih false 0 (.of d) (r + d.rotationDegrees) (names.issue d.name).2
      exact h.root (writtenOf?_settle _ _ rfl)
  | nil => exact ⟨[], .none p _⟩
  | cons n ns ih ihs masked i parent r names =>
    cases h : masked && p.keeps n.toNodeData && n.isMask with
    | true =>
      simp only [Bool.and_eq_true] at h
      rw [h.1.1, styleAll_mask h.1.2 h.2]
      obtain ⟨later, h⟩ := ihs false (i + 1) parent r names
      exact ⟨later, (Reached.none p n.located).cons h⟩
    | false =>
      rw [styleAll_cons h]
      dsimp only
      rw [writtenOfAll_append, writtenOfAll_toList]
      obtain ⟨first, hf⟩ := ih parent r names
      obtain ⟨later, hl⟩ := ihs _ (i + 1) parent r _
      exact ⟨first.map (under i) ++ later, hf.cons hl⟩

/-- **What hides a node hides what is below it**, but for groups that give way to an only child.  In
the code of a styled design, for every framework, there are elements for the nodes that are written,
which are a part of the nodes of the design, in the order of the walk and none twice.  None of them
is hidden, and none is below a hidden one, unless the hidden one is a group with one child that is
kept. -/
theorem elements_clear (s : Session) (root : DesignNode) (r : Request) (assets : Assets)
    (h : (s.style root).1 = some r.root) :
    ∃ left : List (Address × DesignNode),
      left.Sublist root.located ∧ (left.map Prod.fst).Nodup ∧
      left.map (fun e => e.2.toNodeData) = r.root.written.map (fun m => m.source) ∧
      dataLists (r.rootElement? assets).toList = left.map (fun e => nodeMarkup e.2.toNodeData) ∧
      ∀ e ∈ left, Clear s.policy root.located e.1 := by
  obtain ⟨left, reached⟩ := written_clear s.policy root {} 0.0 s.names
  have sources : data left = writtenOf r.root :=
    reached.sources.trans ((congrArg writtenOf? h).trans (writtenOf?_some r.root))
  refine ⟨left, reached.part, (reached.part.map Prod.fst).nodup (nodup_located root), sources, ?_,
    reached.clear⟩
  rw [r.dataLists_rootElement? assets]
  exact (congrArg (List.map nodeMarkup) sources.symm).trans List.map_map

/-- a frame that holds a hidden frame with a box in it, where hidden nodes are kept -/
theorem elements_clear_frame :
    let box : DesignNode := ⟨{ id := "3", name := "Box", kind := .frame }, []⟩
    let hidden : DesignNode :=
      ⟨{ id := "2", name := "Hidden", kind := .frame, visible := false }, [box]⟩
    let root : DesignNode := ⟨{ id := "1", name := "Card", kind := .frame }, [hidden]⟩
    let s : Session := { policy := { hidden := .preserve } }
    ∀ framework, ∃ tree, (s.style root).1 = some tree ∧ ∃ left : List (Address × DesignNode),
      left.Sublist root.located ∧ (left.map Prod.fst).Nodup ∧
      left.map (fun e => e.2.toNodeData) = tree.written.map (fun m => m.source) ∧
      dataLists (({ root := tree, framework } : Request).rootElement? {}).toList
        = left.map (fun e => nodeMarkup e.2.toNodeData) ∧
      ∀ e ∈ left, Clear s.policy root.located e.1 := by
  intro box hidden root s framework
  have some : (s.style root).1.isSome = true := by decide
  obtain ⟨tree, h⟩ := Option.isSome_iff_exists.mp some
  exact ⟨tree, h, elements_clear s root { root := tree, framework } {} h⟩

/-- a hidden group in a frame gives way to the box in it: there is an element for the box -/
theorem elements_behind_hidden_group :
    let box : DesignNode := ⟨{ id := "3", name := "Box", kind := .frame }, []⟩
    let hidden : DesignNode :=
      ⟨{ id := "2", name := "Hidden", kind := .group, visible := false }, [box]⟩
    let root : DesignNode := ⟨{ id := "1", name := "Card", kind := .frame }, [hidden]⟩
    let s : Session := { policy := { hidden := .preserve } }
    ([0], hidden) ∈ root.located ∧ ([0, 0], box) ∈ root.located ∧ hidden.visible = false ∧
      ∀ framework, ∃ tree, (s.style root).1 = some tree ∧
        (dataLists (({ root := tree, framework } : Request).rootElement? {}).toList).map
            (List.map Attribute.render)
          = [["data-layer=\"card\"", "data-node-id=\"1\""],
            ["data-layer=\"box\"", "data-node-id=\"3\""]] := by
  intro box hidden root s
  refine ⟨.tail _ (.head _), .tail _ (.tail _ (.head _)), rfl, fun framework => ?_⟩
  apply Option.map_eq_some_iff.mp
  cases framework <;> decide

end Handoff.Styling
