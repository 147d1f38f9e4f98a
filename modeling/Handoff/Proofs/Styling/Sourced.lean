import Handoff.Proofs.Styling.Inherited

/-!
# Styles that depend on the source alone

The surroundings of a node write some of its styles: groups that give way to it, the stack or the box
that it lies in.  Any other property is written by the node itself, so it can be read off the source
of the node, wherever that stands in the design.

* `surroundingKeys`     the properties that the surroundings of a node write;
* `sourced`             any other property, as it is read off the source;
* `get?_of_source`      it is like this at every node of a styled tree;
* `GridAxis`            columns and rows: what is declared for a span along them;
* `StartsAt`            where a node starts, by the value of its attribute;
* `grid_lines`          the lines at which the nodes of a styled tree start;
* `grid_line_of_last_place`   there is none in front of the last place.
-/

namespace Handoff.Styling
open DesignNode Address

/-! ## what the surroundings write -/

/-- the properties that a group hands on to what it gives way to -/
def handedKeys : List String := "position" :: groupPlaceKeys ++ ["opacity"]

/-- the properties of a stack -/
def stackKeys : List String :=
  ["display", "grid-template-columns", "grid-template-rows", "place-items"]
    ++ "position" :: "width" :: "height" :: offsetKeys ++ ["opacity"]

/-- the properties that the surroundings of a node write -/
def surroundingKeys : List String := placeKeys ++ handedKeys ++ stackKeys

theorem get?_inlinePatch {key : String} (outside : key ∉ handedKeys) (group child : NodeData)
    (parent : ParentContext) (s : Styles) :
    ((inlinePatch group child parent).apply s).get? key = s.get? key := by
  have place : Keyed ("position" :: groupPlaceKeys) (if group.isAbsolute then
      declare "position" "absolute" :: groupPlace group child parent else []) := by
    split
    · exact (keyed_groupPlace group child parent).first
    · exact keyed_nil
  have patched := StylePatch.get?_apply_setAll ∅ ((if group.isAbsolute then
    declare "position" "absolute" :: groupPlace group child parent else [])
      ++ groupOpacity group) s key
  exact patched.trans ((place.both (keyed_groupOpacity group)).get?_write outside s)

theorem get?_stackStyles {key : String} (outside : key ∉ stackKeys) (group : NodeData)
    (parent : ParentContext) : (stackStyles group parent).get? key = none :=
  ((keyed_stackGrid.both (keyed_stackPosition group parent)).both
    (keyed_groupOpacity group)).get?_write outside ∅

/-! ## what the source decides -/

section
variable {p : Policy} {key : String} {own : NodeData → Option StyleValue}

/-- a property that the surroundings leave alone is what the source declares; a stack declares none
-/
def sourced (outside : key ∉ surroundingKeys)
    (declared : ∀ parent n hasChildren, n.kind ≠ .group →
      (nodeStyles p.variableTable parent n hasChildren).get? key = own n) :
    Reading p (Option StyleValue) where
  read n := n.styles.get? key
  expected _ _ way :=
    way.getLast?.bind fun n => if n.kind = .group then none else own n.toNodeData
  lasting _ _ _ h := h key fun place => outside (by simp [surroundingKeys, place])
  own parent _ n hasChildren _ noGroup := by
    rw [List.getLast?_singleton, Option.bind_some, if_neg noGroup]
    exact declared parent n.toNodeData hasChildren noGroup
  stack parent _ n _ group := by
    rw [List.getLast?_singleton, Option.bind_some, if_pos group]
    exact get?_stackStyles (fun stack => outside (by simp [surroundingKeys, stack])) _ parent
  inBox _ _ n way _ some := by rw [List.getLast?_cons_of_ne_nil some]
  inStack _ _ n way _ _ some := by rw [List.getLast?_cons_of_ne_nil some]
  behind _ _ n way _ held := by
    have some : way ≠ [] := by rintro rfl; exact held (List.forall_mem_nil _)
    rw [List.getLast?_cons_of_ne_nil some]
  patched parent _ n c way d _ _ h := by
    rw [List.getLast?_cons_of_ne_nil (List.cons_ne_nil c way), ← h]
    exact get?_inlinePatch (fun handed => outside (by simp [surroundingKeys, handed])) _ _ parent
      d.styles

theorem exists_beside {α γ : Type} {R : α → γ → Prop} {as : List α} {cs : List γ}
    (h : List.Forall₂ R as cs) {a : α} (ha : a ∈ as) : ∃ c ∈ cs, R a c := by
  induction h with
  | nil => cases ha
  | @cons a' c as cs first _ ih =>
    rcases List.mem_cons.mp ha with rfl | later
    · exact ⟨c, List.mem_cons_self, first⟩
    · obtain ⟨c', hc', related⟩ := ih later
      exact ⟨c', List.mem_cons_of_mem c hc', related⟩

/-- **What only a node itself declares can be read off its source**, wherever it stands. -/
theorem get?_of_source (outside : key ∉ surroundingKeys)
    (declared : ∀ parent n hasChildren, n.kind ≠ .group →
      (nodeStyles p.variableTable parent n hasChildren).get? key = own n)
    (n : DesignNode) (parent : ParentContext) (r : Float) (names : NameRegistry) :
    ∀ m ∈ (styleNode p parent r n names).1.toList.flatMap StyledNode.preOrder,
      m.styles.get? key = if m.isGroup then none else own m.source := by
  intro m hm
  have beside := (sourced outside declared).forall₂_styleNode n parent r names
  obtain ⟨e, he, source, found⟩ := exists_beside beside hm
  have last := getLast?_path ((shown_sublist p n).subset he)
  have read : m.styles.get? key = (n.path e.1).getLast?.bind fun n =>
    if n.kind = .group then none else own n.toNodeData := found
  rw [read, last, Option.bind_some, StyledData.isGroup, StyledData.kind, source]
  simp only [decide_eq_true_eq]

end

/-! ## grids -/

/-- what is declared along an axis of a grid, and the attribute that says where it starts -/
inductive GridAxis where
  | column
  | row
deriving DecidableEq

namespace GridAxis

def property : GridAxis → String
  | column => "grid-column"
  | row => "grid-row"

def placeKey : GridAxis → String
  | column => "gridColumnAnchorIndex"
  | row => "gridRowAnchorIndex"

/-- over how many cells a node spans -/
def span? (axis : GridAxis) (n : NodeData) : Option Nat :=
  match axis with
  | column => n.layoutChild.gridColumnSpan
  | row => n.layoutChild.gridRowSpan

/-- the text that starts at a line -/
def lines (start span : Nat) : StyleValue :=
  .text (toString start ++ " / span " ++ toString span)

/-- what a node declares along an axis: only spans of more than one cell are declared -/
def declared? (axis : GridAxis) (n : NodeData) : Option StyleValue :=
  ((axis.span? n).filter fun span => 1 < span).map
    (lines (gridLine (gridAnchor n axis.placeKey)))

theorem property_not_mem (axis : GridAxis) : axis.property ∉ surroundingKeys := by
  cases axis <;> decide

end GridAxis

/-- a span is written under its own property only, over what stood there -/
theorem get?_gridSpan (n : NodeData) (property anchor : String) (span : Option Nat) (s : Styles)
    (key : String) : (s.write (gridSpan n property anchor span)).get? key
      = (if key = property then (span.filter fun span => 1 < span).map
          (GridAxis.lines (gridLine (gridAnchor n anchor))) else none).or (s.get? key) := by
  have kept : (if key = property then (none : Option StyleValue) else none).or (s.get? key)
      = s.get? key := by rw [ite_self, Option.none_or]
  cases span with
  | none => exact kept.symm
  | some span =>
    rw [gridSpan, Option.filter_some]
    by_cases more : 1 < span
    · rw [decide_eq_true more, declareIf, if_pos rfl, if_pos rfl, Option.map_some]
      refine (Dict.get?_set ..).trans ?_
      by_cases same : key = property
      · exact (if_pos same).trans (by rw [if_pos same, Option.some_or]; rfl)
      · exact (if_neg same).trans (by rw [if_neg same, Option.none_or])
    · rw [decide_eq_false more]
      exact kept.symm

theorem get?_gridSpans (n : NodeData) (s : Styles) (axis : GridAxis) :
    (s.write (gridSpans n)).get? axis.property = (axis.declared? n).or (s.get? axis.property) := by
  rw [gridSpans, write_append, get?_gridSpan, get?_gridSpan]
  cases axis with
  | column =>
    rw [if_neg (by decide), Option.none_or]
    exact congrArg (Option.or · _) (if_pos rfl)
  | row =>
    have columns : GridAxis.row.property ≠ "grid-column" := by decide
    rw [if_neg columns, Option.none_or]
    exact congrArg (Option.or · _) (if_pos rfl)

/-- no other pass writes along the axes -/
theorem get?_nodeStyles_axis (vs : Variables) (parent : ParentContext) (n : NodeData)
    (hasChildren : Bool) (axis : GridAxis) :
    (nodeStyles vs parent n hasChildren).get? axis.property = axis.declared? n := by
  obtain ⟨late, keyed, e⟩ := nodeStyles_split vs parent n hasChildren
  have others : axis.property ∉ lateKeys ∧ axis.property ∉ sizeKeys ∧
      axis.property ∉ "position" :: offsetKeys ∧ axis.property ∉ containerKeys ∧
      axis.property ∉ generalKeys := by cases axis <;> decide
  obtain ⟨noLate, noSize, noPosition, noContainer, noGeneral⟩ := others
  rw [e, write_append, keyed.get?_write noLate, write_append, layout, write_append,
    (keyed_size n parent hasChildren).get?_write noSize, write_append, get?_gridSpans, write_append,
    (keyed_position n parent).get?_write noPosition,
    (keyed_container n parent).get?_write noContainer, (keyed_general vs n).get?_write noGeneral]
  exact Option.or_none

/-- a value names a place: a whole number that is a word of 64 bits -/
def NamesPlace (v : Option Json) (place : Nat) : Prop :=
  v = some (.num (.int place)) ∧ place < Decimal.twoTo 64

/-- where a node starts: at the place that the value names, or else at the first one -/
def StartsAt (v : Option Json) (place : Nat) : Prop :=
  NamesPlace v place ∨ place = 0 ∧ ∀ k, ¬ NamesPlace v k

theorem asNat?_eq_some_iff {bound place : Nat} {v : Json} :
    v.asNat? bound = some place ↔ v = .num (.int place) ∧ place < bound := by
  constructor
  · intro found
    unfold Json.asNat? at found
    split at found
    · split at found
      · obtain ⟨small, large⟩ := ‹_ ∧ _›
        cases found
        exact ⟨by rw [Int.toNat_of_nonneg small], by omega⟩
      · cases found
    · cases found
  · rintro ⟨rfl, small⟩
    have within : (0 : Int) ≤ place ∧ (place : Int) < bound := by omega
    rw [Json.asNat?, if_pos within, Int.toNat_natCast]

/-- what is declared along an axis can be read off the source -/
theorem get?_axis (p : Policy) (parent : ParentContext) (r : Float) (root : DesignNode)
    (names : NameRegistry) (axis : GridAxis) :
    ∀ m ∈ (styleNode p parent r root names).1.toList.flatMap StyledNode.preOrder,
      m.styles.get? axis.property = if m.isGroup then none else axis.declared? m.source :=
  get?_of_source axis.property_not_mem (fun parent n hasChildren _ =>
    get?_nodeStyles_axis p.variableTable parent n hasChildren axis) root parent r names

theorem startsAt_gridAnchor (n : NodeData) (key : String) :
    StartsAt (n.attributes.get? key) (gridAnchor n key) := by
  have named (place : Nat) : (n.attributes.get? key).bind (Json.asNat? (Decimal.twoTo 64))
      = some place ↔ NamesPlace (n.attributes.get? key) place := by
    simp only [Option.bind_eq_some_iff, asNat?_eq_some_iff, NamesPlace]
    constructor
    · rintro ⟨v, found, rfl, small⟩
      exact ⟨found, small⟩
    · rintro ⟨found, small⟩
      exact ⟨_, found, rfl, small⟩
  unfold gridAnchor
  cases found : (n.attributes.get? key).bind (Json.asNat? (Decimal.twoTo 64)) with
  | some place => exact .inl ((named place).mp found)
  | none =>
    refine .inr ⟨rfl, fun place h => ?_⟩
    have some := (named place).mpr h
    rw [found] at some
    cases some

theorem StartsAt.lt {v : Option Json} {place : Nat} (h : StartsAt v place) :
    place < Decimal.twoTo 64 := by
  rcases h with ⟨-, small⟩ | ⟨rfl, -⟩
  · exact small
  · exact Decimal.twoTo_pos 64

/-- the words are at their end behind the last place -/
theorem gridLine_spec {place : Nat} (h : place < Decimal.twoTo 64) :
    (gridLine place = place + 1 ↔ place + 1 ≠ Decimal.twoTo 64) ∧
      (gridLine place = 0 ↔ place + 1 = Decimal.twoTo 64) := by
  unfold gridLine
  rcases Nat.lt_or_eq_of_le (Nat.succ_le_of_lt h) with less | last
  · rw [Nat.mod_eq_of_lt less]
    omega
  · rw [Nat.succ_eq_add_one] at last
    rw [last, Nat.mod_self]
    omega

/-- **The lines at which nodes start.**  Where a node of a styled tree spans more than one cell along
an axis of a grid, its place is the number that its attribute names, if that is a word of 64 bits, and
else zero; the line that is declared is the next number, except for the last place of all: the words
are at their end there, and the line is zero.  Nodes that span no more, and stacks, declare nothing
along the axis. -/
theorem grid_lines (p : Policy) (parent : ParentContext) (r : Float) (root : DesignNode)
    (names : NameRegistry) (axis : GridAxis) :
    (∀ m ∈ (styleNode p parent r root names).1.toList.flatMap StyledNode.preOrder,
      (m.isGroup = false → ∀ span, axis.span? m.source = some span → 1 < span →
        ∃ place < Decimal.twoTo 64, StartsAt (m.source.attributes.get? axis.placeKey) place ∧
          m.styles.get? axis.property = some (GridAxis.lines (gridLine place) span)) ∧
      (m.isGroup = true ∨ (∀ span, axis.span? m.source = some span → span ≤ 1) →
        m.styles.get? axis.property = none)) ∧
    ∀ place < Decimal.twoTo 64,
      (gridLine place = place + 1 ↔ place + 1 ≠ Decimal.twoTo 64) ∧
      (gridLine place = 0 ↔ place + 1 = Decimal.twoTo 64) := by
  refine ⟨fun m hm => ?_, fun place h => gridLine_spec h⟩
  have read := get?_axis p parent r root names axis m hm
  refine ⟨fun noGroup span found more => ?_, fun nothing => ?_⟩
  · have starts := startsAt_gridAnchor m.source axis.placeKey
    refine ⟨_, starts.lt, starts, ?_⟩
    rw [read, noGroup, if_neg Bool.false_ne_true, GridAxis.declared?, found,
      Option.filter_some, decide_eq_true more, if_pos rfl, Option.map_some]
  · rw [read]
    split
    · rfl
    · rename_i noGroup
      have short := nothing.resolve_left noGroup
      rw [GridAxis.declared?, Option.map_eq_none_iff, Option.filter_eq_none_iff]
      exact fun span found => by simpa using short span found

/-- behind the last place there is no line: the sum is zero, and not the next number -/
theorem grid_line_of_last_place :
    let cell : DesignNode := ⟨{
      id := "1", name := "Cell", kind := .frame
      layoutChild := { gridColumnSpan := some 2 }
      attributes := Dict.ofList [("gridColumnAnchorIndex", .num (.int 18446744073709551615))] }, []⟩
    StartsAt (cell.attributes.get? "gridColumnAnchorIndex") 18446744073709551615 ∧
    ∃ tree, (({} : Session).style cell).1 = some tree ∧
      tree.styles.get? "grid-column" = some (.text "0 / span 2") ∧
      "0 / span 2" ≠ toString (18446744073709551615 + 1) ++ " / span 2" := by
  intro cell
  refine ⟨.inl ⟨rfl, by decide⟩, ?_⟩
  have box : (styleNode {} {} 0.0 cell ∅).1 = _ :=
    congrArg Prod.fst (styleNode_box rfl (show NodeKind.frame ≠ .group by decide) rfl)
  have read := get?_axis {} {} 0.0 cell ∅ .column
  rw [box] at read
  refine ⟨_, box, (read _ ?_).trans ?_, by decide⟩
  · exact List.mem_append_left [] (StyledNode.mem_preOrder_self _)
  · have line : gridLine (gridAnchor cell.toNodeData "gridColumnAnchorIndex") = 0 := by
      decide
    rw [StyledData.isGroup, StyledData.kind, source_settle]
    show some (GridAxis.lines (gridLine (gridAnchor cell.toNodeData "gridColumnAnchorIndex")) 2) = _
    rw [line]
    exact congrArg (some ∘ StyleValue.text) (by decide)

end Handoff.Styling
