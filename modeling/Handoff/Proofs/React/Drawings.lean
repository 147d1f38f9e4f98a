import Handoff.Proofs.Styled.Shown
import Handoff.React.Drawings

/-!
# The drawings that are prepared

Drawings are prepared by a walk of its own, with a stack in the place of recursion.  It comes to the
drawings among the nodes that become elements, and each of them gets a source.

* `visited_eq`        what a stack leads to;
* `visited_root`      the walk of a tree visits its drawings;
* `isSome_source`     each drawing has a source;
* `warnings_of`       and those that are missing are complained about, one after the other.
-/

namespace Handoff.React.Drawings
open StyledNode

/-- a stack leads to the drawings of its nodes, one node after the other -/
theorem visited_eq (stack : List StyledNode) :
    visited stack = ((emittedAll stack).filter isDrawn).map toStyledData := by
  fun_induction visited stack with
  | case1 => rfl
  | case2 d cs stack hidden ih =>
    rw [ih]
    show _ = ((emitted ⟨d, cs⟩ ++ emittedAll stack).filter isDrawn).map toStyledData
    rw [emitted_hidden (by simpa using hidden), List.nil_append]
  | case3 d cs stack rendered drawn ih =>
    rw [ih]
    show _ = ((emitted ⟨d, cs⟩ ++ emittedAll stack).filter isDrawn).map toStyledData
    rw [emitted_drawn (by simpa using rendered) drawn, List.singleton_append,
      List.filter_cons_of_pos drawn, List.map_cons]
  | case4 d cs stack rendered plain ih =>
    rw [ih, emittedAll_append]
    show _ = ((emitted ⟨d, cs⟩ ++ emittedAll stack).filter isDrawn).map toStyledData
    rw [emitted_box (by simpa using rendered) (by simpa using plain), List.cons_append,
      List.filter_cons_of_neg plain]

/-- the walk with a stack and the one by recursion visit the same drawings -/
theorem visited_root (root : StyledNode) : visited [root] = drawnNodes root := by
  rw [visited_eq]
  show ((root.emitted ++ []).filter isDrawn).map toStyledData = _
  rw [List.append_nil]
  rfl

/-! ## sources -/

section
variable (mode : SvgMode) (assets : Assets)

theorem get?_add (ds : Drawings) (n : StyledData) (id : String) :
    ∃ source, (ds.add mode assets n).sources.get? id
      = if id = n.id then some source else ds.sources.get? id := by
  cases mode with
  | inlined => exact ⟨_, Dict.get?_set ..⟩
  | exported => exact ⟨_, Dict.get?_set ..⟩

theorem isSome_foldl (nodes : List StyledData) (id : String) : ∀ ds : Drawings,
    (ds.sources.get? id).isSome = true ∨ id ∈ nodes.map StyledData.id →
      ((nodes.foldl (add mode assets) ds).sources.get? id).isSome = true := by
  induction nodes with
  | nil => exact fun ds h => h.resolve_right List.not_mem_nil
  | cons n nodes ih =>
    intro ds h
    obtain ⟨source, get⟩ := get?_add mode assets ds n id
    refine ih _ ?_
    rw [get]
    by_cases same : id = n.id
    · rw [if_pos same]
      exact .inl rfl
    · rw [if_neg same]
      exact h.imp_right fun hid => (List.mem_cons.mp hid).resolve_left same

/-- a drawing that is visited has a source -/
theorem isSome_source {root : StyledNode} {n : StyledData} (h : n ∈ visited [root]) :
    ((of mode assets root).sources.get? n.id).isSome = true :=
  isSome_foldl mode assets _ n.id {} (.inr (List.mem_map_of_mem h))

/-! ## warnings -/

theorem warnings_add (ds : Drawings) (n : StyledData) :
    (ds.add mode assets n).warnings = ds.warnings ++ (drawingDocument assets n).2 := by
  cases mode <;> rfl

theorem warnings_foldl (nodes : List StyledData) : ∀ ds : Drawings,
    (nodes.foldl (add mode assets) ds).warnings
      = ds.warnings ++ nodes.flatMap fun n => (drawingDocument assets n).2 := by
  induction nodes with
  | nil => exact fun ds => (List.append_nil _).symm
  | cons n nodes ih =>
    intro ds
    rw [List.foldl_cons, ih, warnings_add, List.flatMap_cons, List.append_assoc]

/-- the drawings that are missing are complained about in the order of the walk, as on a page -/
theorem warnings_of (root : StyledNode) :
    (of mode assets root).warnings
      = (drawnNodes root).flatMap fun n => (drawingDocument assets n).2 := by
  rw [of, warnings_foldl, visited_root]
  rfl

end
end Handoff.React.Drawings
