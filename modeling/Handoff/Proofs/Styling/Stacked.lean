import Handoff.Proofs.Styling.Values

/-!
# Places on a stack

A child of a stack had a place before: by its own constraints, by its own children, or by the groups
that gave way to it.  The stack takes all of that away and gives it one of two places, a distance from
the sides that it is pinned to, or the one cell of the grid.

* `Pinned`, `OnCell`       the two places, which exclude each other;
* `placed_cellPatch`       the patch of a stack gives one of them, whatever was there before;
* `placed_onStack`         so does all that a stack does to a child;
* `stacked_children`       the children of the stacks in a styled tree have one place each.
-/

namespace Handoff.Styling
open StyledNode

/-- at some distance from the sides of the stack -/
structure Pinned (s : Styles) : Prop where
  position : position? s = some (.text "absolute")
  area : s.contains "grid-area" = false

/-- on the cell of the stack, and nowhere else -/
structure OnCell (s : Styles) : Prop where
  area : s.get? "grid-area" = some (.text "1 / 1")
  position : position? s = none ∨ position? s = some (.text "relative")
  offsets : ∀ key ∈ ["top", "left", "right", "bottom", "translate"], s.contains key = false

/-- no place is both -/
theorem Pinned.not_onCell {s : Styles} (h : Pinned s) : ¬ OnCell s := by
  intro cell
  have area := h.area
  rw [Dict.contains, cell.area] at area
  cases area

/-- what only the position is changed of stays on its cell -/
theorem OnCell.relative {s : Styles} (h : OnCell s) : OnCell (s.put "position" "relative") where
  area := by
    rw [Styles.put, Dict.get?_set, if_neg (by decide)]
    exact h.area
  position := .inr (position?_put s "relative")
  offsets key hkey := by
    have other : ∀ key ∈ ["top", "left", "right", "bottom", "translate"], key ≠ "position" := by
      decide
    rw [Dict.contains, Styles.put, Dict.get?_set, if_neg (other key hkey)]
    exact h.offsets key hkey

/-- a stack gives a child without a cell one place -/
theorem placed_cellPatch (child : NodeData) (group : Option Rect) {s : Styles}
    (free : s.contains "grid-area" = false) :
    Pinned ((cellPatch child group).apply s) ∨ OnCell ((cellPatch child group).apply s) := by
  have position := position?_cellPatch child group s
  rcases cellPatch_cases child group with ⟨pinned, ds, keyed, e⟩ | ⟨loose, ds, keyed, e⟩
  · rw [pinned, if_pos rfl] at position
    refine .inl ⟨position, ?_⟩
    rw [e, Dict.contains, Keyed.get?_apply_replacing keyed.first (by decide), if_neg (by decide)]
    exact free
  · rw [loose, if_neg Bool.false_ne_true] at position
    refine .inr ⟨?_, .inl position, fun key hkey => ?_⟩
    · rw [e, keyed.get?_apply_first (by decide)]
    · -- the offsets are taken away, and only margins come back
      have own : Keyed ["grid-area", "margin-left", "margin-top"]
          (declare "grid-area" "1 / 1" :: ds) := keyed.first
      have other : ∀ key ∈ ["top", "left", "right", "bottom", "translate"],
          key ∉ ["grid-area", "margin-left", "margin-top"] := by decide
      rw [e, Dict.contains, own.get?_apply_replacing (other key hkey),
        if_pos (List.mem_cons_of_mem _ hkey), Option.isSome_none]

/-- a child that holds absolute children gets a position besides, but only on its cell -/
theorem placed_contain {n : StyledNode} (h : Pinned n.styles ∨ OnCell n.styles) :
    Pinned (contain n).styles ∨ OnCell (contain n).styles := by
  unfold contain
  split
  · next open' =>
    rcases h with pinned | cell
    · rw [isAbsolute_of_absolute pinned.position] at open'
      cases open'
    · exact .inr cell.relative
  · exact h

theorem placed_onStack (group : NodeData) (mask : Option String) (source : NodeData)
    {n : StyledNode} (free : n.styles.contains "grid-area" = false) :
    Pinned (onStack group mask source n).styles ∨ OnCell (onStack group mask source n).styles :=
  placed_contain (placed_cellPatch source group.bounds free)

/-- every child of a stack has a place there -/
theorem placed_styleNode_stacks (p : Policy) (n : DesignNode) (parent : ParentContext) (r : Float)
    (names : NameRegistry) : ∀ tree ∈ (styleNode p parent r n names).1,
      tree.EachChild fun d c => d.kind = .group → Pinned c.styles ∨ OnCell c.styles := by
  intro tree h
  refine (eachDeclared_styleNode p ?_ ?_ n parent r names tree h).2
  · exact fun d mask source c _ declared _ =>
      placed_onStack d mask source (no_area_of_declared declared)
  · exact fun d children noGroup _ c' _ group => absurd group noGroup

/-- **The children of stacks have one place each.**  In the styled tree of a design, a child of a
stack is absolute and has no cell, or it lies on the cell of the stack, with no position or a relative
one and without any offset: never both, whatever place it had before it was stacked. -/
theorem stacked_children (s : Session) (design : DesignNode) {tree m c : StyledNode}
    (h : (s.style design).1 = some tree) (hm : m ∈ tree.preOrder) (stack : m.isGroup = true)
    (hc : c ∈ m.children) :
    (Pinned c.styles ∨ OnCell c.styles) ∧ ¬ (Pinned c.styles ∧ OnCell c.styles) := by
  have places := placed_styleNode_stacks s.policy design {} 0.0 s.names tree h
  exact ⟨places m hm c hc (of_decide_eq_true stack), fun both => both.1.not_onCell both.2⟩

/-- a stack of a badge that is pinned to its right, and of a group that gives way to a centered dot:
the group hands on a place of its own -/
theorem stacked_children_badge :
    let box : Rect := ⟨0.0, 0.0, 100.0, 100.0⟩
    let badge : DesignNode := ⟨{
      id := "2", name := "Badge", kind := .rectangle, bounds := some ⟨90.0, 0.0, 10.0, 10.0⟩
      constraints := some ⟨.max, .min⟩, payload := .shape {} {} {} }, []⟩
    let dot : DesignNode := ⟨{
      id := "4", name := "Dot", kind := .rectangle, bounds := some ⟨40.0, 40.0, 20.0, 20.0⟩
      constraints := some ⟨.center, .center⟩, payload := .shape {} {} {} }, []⟩
    let holder : DesignNode := ⟨{
      id := "3", name := "Holder", kind := .group, layoutChild := { positioning := .absolute }
      relativeTransform := some ((1.0, 0.0, 5.0), (0.0, 1.0, 5.0)) }, [dot]⟩
    let stack : DesignNode :=
      ⟨{ id := "1", name := "Stack", kind := .group, bounds := some box }, [badge, holder]⟩
    ∃ tree, (({} : Session).style stack).1 = some tree ∧ tree ∈ tree.preOrder ∧
      tree.isGroup = true ∧ tree.children.map (fun c => c.id) = ["2", "4"] ∧
      ∀ c ∈ tree.children,
        (Pinned c.styles ∨ OnCell c.styles) ∧ ¬ (Pinned c.styles ∧ OnCell c.styles) := by
  intro box badge dot holder stack
  have seen : (({} : Session).style stack).1.map
      (fun t => (t.isGroup, t.children.map fun c => c.id)) = some (true, ["2", "4"]) := by
    decide
  obtain ⟨tree, styled, both⟩ := Option.map_eq_some_iff.mp seen
  obtain ⟨group, children⟩ := Prod.mk.inj both
  have self := tree.mem_preOrder_self
  exact ⟨tree, styled, self, group, children,
    fun c hc => stacked_children {} stack styled self group hc⟩

end Handoff.Styling
