import Handoff.Proofs.Design.WellFormed
import Handoff.Proofs.Styling.Cells
import Handoff.Proofs.Utility.LeadTable

/-!
# The values of styled nodes

Whatever the nodes of a styled tree declare makes classes that begin with the utility of their
property, and only some properties are declared with any value at all.

* `Settled`               what a node of a styled tree declares;
* `tame_of_declared`      values that are safe to be written as classes;
* `position_of_settled`   a position is absolute or relative;
* `settled_cases`         which nodes have a cell.
-/

namespace Handoff.Styling
open StyledNode Utility

/-- a node declares what it can declare anywhere, or a cell -/
def Settled (n : StyledData) : Prop := n.styles.Each fun d => Declared n.source d ∨ Cell d

/-- a text whose font has no blanks in its name but plain ones, or no text at all -/
def NamesFont (n : NodeData) : Prop :=
  ∀ style ∈ n.typeStyle?, ∀ family ∈ style.fontFamily,
    ∀ c ∈ family.toList, Chars.isBlank c = true → c = ' '

/-- only texts have a font -/
theorem namesFont_of_fits {n : NodeData} (fits : n.payload.fits n.kind = true)
    (other : n.kind ≠ .text) : NamesFont n := by
  intro style hs
  rw [NodeData.typeStyle?_of_fits fits other] at hs
  cases hs

theorem plainKeys_tame : ∀ key ∈ plainKeys,
    propertyKey key ∉ ["zindex", "gridcolumn", "gridrow", "fontfamily"] := by decide

theorem tame_of_declared {n : NodeData} {d : Declaration} (font : NamesFont n) (h : Declared n d) :
    Tame (propertyKey d.1) d.2.show := by
  cases h with
  | plain hk => exact tame_of_plain (plainKeys_tame _ hk) _
  | absolute => exact tame_of_plain (by decide : propertyKey "position" ∉ _) _
  | relative => exact tame_of_plain (by decide : propertyKey "position" ∉ _) _
  | layer x =>
    show Tame (propertyKey "z-index") (Decimal.trimmed x)
    exact ⟨fun _ => (Decimal.numeral_trimmed x).solid, fun other => absurd other (by decide),
      fun other => absurd other (by decide)⟩
  | lines hk line span =>
    have other : ∀ key ∈ ["grid-column", "grid-row"], propertyKey key ≠ "zindex"
        ∧ propertyKey key ≠ "fontfamily" := by decide
    exact ⟨fun same => absurd same (other _ hk).1, fun _ => ⟨line, span, rfl⟩,
      fun same => absurd same (other _ hk).2⟩
  | @family style hs family hf =>
    show Tame (propertyKey "font-family") family
    exact ⟨fun other => absurd other (by decide), fun other => absurd other (by decide),
      fun _ => font _ hs _ hf⟩

/-- the properties that only a node on a stack declares -/
def cellKeys : List String := ["grid-area", "margin-left", "margin-top"]

theorem key_of_cell {d : Declaration} (h : Cell d) : d.1 ∈ cellKeys := by
  cases h with
  | area => exact List.mem_cons_self
  | margin hk => exact List.mem_cons_of_mem _ hk

theorem tame_of_cell {d : Declaration} (h : Cell d) : Tame (propertyKey d.1) d.2.show := by
  have plain : ∀ key ∈ cellKeys,
      propertyKey key ∉ ["zindex", "gridcolumn", "gridrow", "fontfamily"] := by decide
  exact tame_of_plain (plain _ (key_of_cell h)) _

/-- the properties that a node declares in any context -/
def declaredKeys : List String :=
  ["position", "z-index", "grid-column", "grid-row", "font-family"] ++ plainKeys

theorem key_of_declared {n : NodeData} {d : Declaration} (h : Declared n d) :
    d.1 ∈ declaredKeys := by
  cases h with
  | plain hk => exact List.mem_append_right _ hk
  | absolute | relative => exact List.mem_append_left _ (by decide)
  | layer => exact List.mem_append_left _ (by decide : "z-index" ∈ _)
  | lines hk => exact List.mem_append_left _ (List.mem_cons_of_mem _ (List.mem_cons_of_mem _
      (List.mem_append_left ["font-family"] hk)))
  | family => exact List.mem_append_left _ (by decide : "font-family" ∈ _)

theorem position_of_declared {n : NodeData} {d : Declaration} (h : Declared n d)
    (key : d.1 = "position") : d.2 = .text "absolute" ∨ d.2 = .text "relative" := by
  have unkeyed : "position" ∉ plainKeys := by decide
  have other : ∀ key ∈ ["grid-column", "grid-row"], key ≠ "position" := by decide
  cases h with
  | plain hk => exact absurd (key ▸ hk) unkeyed
  | absolute => exact .inl rfl
  | relative => exact .inr rfl
  | layer => exact absurd (show "z-index" = "position" from key) (by decide)
  | lines hk => exact absurd key (other _ hk)
  | family => exact absurd (show "font-family" = "position" from key) (by decide)

/-- a position is absolute or relative -/
theorem position_of_settled {n : StyledData} (h : Settled n) {v : StyleValue}
    (hv : position? n.styles = some v) : v = .text "absolute" ∨ v = .text "relative" := by
  rcases Styles.each_iff.mp h _ _ hv with declared | cell
  · exact position_of_declared declared rfl
  · exact absurd (key_of_cell cell) (by decide : "position" ∉ cellKeys)

/-- only cells have an area -/
theorem no_area_of_declared {n : StyledData} (h : n.styles.Each (Declared n.source)) :
    n.styles.contains "grid-area" = false := by
  rw [Dict.contains, Option.isSome_eq_false_iff, Option.isNone_iff_eq_none,
    Option.eq_none_iff_forall_not_mem]
  intro v hv
  have key := key_of_declared (Styles.each_iff.mp h _ _ hv)
  exact (by decide : "grid-area" ∉ declaredKeys) key

/-- the children of stacks have a cell if need be, and no other node has one -/
theorem settled_cases {tree n : StyledNode} (h : Plain tree) (hn : n ∈ tree.preOrder) :
    (∃ m ∈ tree.preOrder, m.isGroup = true ∧ n ∈ m.children) ∧ Celled n ∨
      (¬ ∃ m ∈ tree.preOrder, m.isGroup = true ∧ n ∈ m.children)
        ∧ n.styles.Each (Declared n.source) := by
  by_cases stacked : ∃ m ∈ tree.preOrder, m.isGroup = true ∧ n ∈ m.children
  · obtain ⟨m, hm, group, child⟩ := stacked
    exact .inl ⟨⟨m, hm, group, child⟩, (h.below m hm n child).1 (of_decide_eq_true group)⟩
  · refine .inr ⟨stacked, ?_⟩
    rcases mem_preOrder hn with rfl | ⟨m, hm, child⟩
    · exact h.declared
    · exact (h.below m hm n child).2 fun group =>
        stacked ⟨m, hm, decide_eq_true group, child⟩

theorem settled_of_plain {tree n : StyledNode} (h : Plain tree) (hn : n ∈ tree.preOrder) :
    Settled n.toStyledData := by
  rcases settled_cases h hn with ⟨-, celled⟩ | ⟨-, declared⟩
  · exact celled.declared
  · exact declared.imp fun _ => .inl

end Handoff.Styling
