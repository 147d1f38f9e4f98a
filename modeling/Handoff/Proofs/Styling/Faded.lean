import Handoff.Proofs.Styling.Turned

/-!
# How groups fade what they give way to

A group that gives way to its only child hands its opacity on, and the next group outside of it does
the same.  The opacity that was there is replaced each time and not multiplied, so of a chain only the
outermost node counts that is faded at all.

* `isFaded`, `shade`            a node that is faded, and the opacity that it declares;
* `opacity?_nodeStyles`, `opacity?_stackStyles`, `opacity?_inlinePatch`   who writes the opacity;
* `fade?`, `fades`              the opacity at the end of a chain, and that styled nodes have it;
* `opacity_styles`              how the nodes of a styled tree are faded;
* `opacity_of_faded_group`      a node whose own opacity is lost.
-/

namespace Handoff.Styling
open DesignNode Address

/-! ## who writes the opacity -/

def opacity? (s : Styles) : Option StyleValue := s.get? "opacity"

/-- an opacity that is written: that of a group if it is not one, that of any other node if it is
less -/
def isFaded (n : NodeData) : Bool :=
  if n.kind = .group then n.opacity != 1.0 else n.opacity < 1.0

/-- the opacity that a node declares: only groups do not refer to the variable that it is bound to -/
def shade (vs : Variables) (n : NodeData) : StyleValue :=
  if n.kind = .group then .num n.opacity
  else match n.boundVariableId? "opacity" with
    | some id => .text (vs.reference id (Decimal.trimmed n.opacity))
    | none => .num n.opacity

/-- a node that is no group is faded by itself -/
theorem opacity?_nodeStyles (vs : Variables) (parent : ParentContext) {n : NodeData}
    (noGroup : n.kind ≠ .group) (hasChildren : Bool) :
    opacity? (nodeStyles vs parent n hasChildren)
      = if isFaded n then some (shade vs n) else none := by
  obtain ⟨late, keyed, e⟩ := nodeStyles_split vs parent n hasChildren
  obtain ⟨rest, keyed', general⟩ := general_eq vs n
  rw [e, general, write_append, opacity?, keyed.get?_write (by decide), write_append,
    (keyed_layout n parent hasChildren).get?_write (by decide), write_append,
    keyed'.get?_write (by decide), opacity, isFaded, shade, if_neg noGroup, if_neg noGroup]
  by_cases less : n.opacity < 1.0
  · rw [if_pos less, decide_eq_true less, if_pos rfl]
    cases n.boundVariableId? "opacity" <;> exact (Dict.get?_set ..).trans (if_pos rfl)
  · rw [if_neg less, decide_eq_false less]
    rfl

/-- a group declares its opacity if it is not one -/
theorem opacity?_groupOpacity {group : NodeData} (kind : group.kind = .group) (vs : Variables)
    (s : Styles) : opacity? (s.write (groupOpacity group))
      = if isFaded group then some (shade vs group) else opacity? s := by
  rw [groupOpacity, isFaded, shade, if_pos kind, if_pos kind]
  cases group.opacity != 1.0 with
  | true => exact (Dict.get?_set ..).trans (if_pos rfl)
  | false => rfl

/-- a stack is faded by itself -/
theorem opacity?_stackStyles {group : NodeData} (kind : group.kind = .group) (vs : Variables)
    (parent : ParentContext) : opacity? (stackStyles group parent)
      = if isFaded group then some (shade vs group) else none := by
  have before : opacity? (Styles.write ∅ ([declare "display" "inline-grid",
      declare "grid-template-columns" "max-content", declare "grid-template-rows" "max-content",
      declare "place-items" "start"] ++ stackPosition group parent)) = none := by
    rw [write_append, opacity?, (keyed_stackPosition group parent).get?_write (by decide)]
    rfl
  rw [stackStyles, write_append, opacity?_groupOpacity kind vs, before]

/-- a group that is faded replaces the opacity of what it gives way to, any other one leaves it -/
theorem opacity?_inlinePatch {group : NodeData} (kind : group.kind = .group) (vs : Variables)
    (child : NodeData) (parent : ParentContext) (s : Styles) :
    opacity? ((inlinePatch group child parent).apply s)
      = if isFaded group then some (shade vs group) else opacity? s := by
  have assigned (ds : List Declaration) :
      opacity? ((StylePatch.setAll ∅ ds).apply s) = opacity? (s.write ds) :=
    StylePatch.get?_apply_setAll ∅ ds s "opacity"
  have place : Keyed ("position" :: groupPlaceKeys) (if group.isAbsolute then
      declare "position" "absolute" :: groupPlace group child parent else []) := by
    split
    · exact (keyed_groupPlace group child parent).first
    · exact keyed_nil
  unfold inlinePatch
  dsimp only
  rw [assigned, write_append, opacity?_groupOpacity kind vs, opacity?, opacity?,
    place.get?_write (by decide)]

/-! ## chains -/

/-- the opacity at the end of a chain: that of the outermost node that is faded -/
def fade? (vs : Variables) (chain : List DesignNode) : Option StyleValue :=
  (chain.find? fun n => isFaded n.toNodeData).map fun n => shade vs n.toNodeData

theorem fade?_cons (vs : Variables) (n : DesignNode) (chain : List DesignNode) :
    fade? vs (n :: chain) = if isFaded n.toNodeData then some (shade vs n.toNodeData)
      else fade? vs chain := by
  rw [fade?, List.find?_cons]
  cases isFaded n.toNodeData <;> rfl

/-- the opacity of a styled node is that at the end of its chain -/
def fades (p : Policy) : Reading p (Option StyleValue) where
  read n := opacity? n.styles
  expected parent _ way := fade? p.variableTable (chain p parent.bounds way).2
  lasting _ _ _ h := h "opacity" (by decide)
  own parent r n hasChildren name noGroup := by
    rw [chain_through (through_single p n), fade?_cons]
    exact opacity?_nodeStyles p.variableTable parent noGroup hasChildren
  stack parent r n name group := by
    rw [chain_through (through_single p n), fade?_cons]
    exact opacity?_stackStyles group p.variableTable parent
  inBox parent r n way noGroup some := by
    rw [chain_solid (not_givesWay_of_noGroup noGroup) some]
    rfl
  inStack parent r n way _ solid some := by
    rw [chain_solid solid some]
    rfl
  behind parent r n way _ held := by rw [chain_behind held]
  patched parent r n c way d give through h := by
    have further : Through p (n :: c :: way) :=
      (through_cons (List.cons_ne_nil c way)).mpr ⟨give, through⟩
    rw [chain_through through] at h
    rw [chain_through further, fade?_cons, ← h]
    exact opacity?_inlinePatch give.1 p.variableTable c.toNodeData parent d.styles

/-- **How groups fade what they give way to.**  The nodes of a styled tree stand for the nodes that
are left of the design, and the way to the source of each ends in a chain: the groups that gave way
to it, the outermost first, and the source.  The opacity in its styles is that of the outermost node
of the chain that is faded, as it stands there: neither the groups below that one nor the source
change it, and it is missing where no node is faded. -/
theorem opacity_styles (s : Session) (parent : ParentContext) (rotation : Float)
    (root : DesignNode) : ∃ left, Left s.policy root left ∧
    (∀ e ∈ left, (root.path e.1).getLast? = some e.2) ∧
    List.Forall₂ (fun m e => m.source = e.2.toNodeData ∧ ∃ above chain,
        root.path e.1 = above ++ chain ∧ chain ≠ [] ∧ Chained s.policy above chain ∧
        opacity? m.styles = fade? s.policy.variableTable chain)
      ((s.styleIn parent rotation root).1.toList.flatMap StyledNode.preOrder) left := by
  have left := left_shown s.policy root
  refine ⟨shown s.policy root, left, fun e he => getLast?_path (left.part.subset he), ?_⟩
  refine ((fades s.policy).forall₂_styleNode root parent rotation s.names).imp fun m e h => ?_
  obtain ⟨source, faded⟩ := h
  obtain ⟨above, split, last, chained, -⟩ :=
    chain_spec (p := s.policy) parent.bounds (path_ne_nil root e.1)
  exact ⟨source, above, _, split, last, chained, faded⟩

/-- a group that is half faded gives way to a dot: whatever the opacity of the dot is, it is replaced,
also by a half where both make a quarter -/
theorem opacity_of_faded_group :
    let dot : Float → DesignNode := fun opacity => ⟨{
      id := "2", name := "Dot", kind := .rectangle, opacity, payload := .shape {} {} {} }, []⟩
    let faded : Float → DesignNode := fun opacity =>
      ⟨{ id := "1", name := "Faded", kind := .group, opacity := 0.5 }, [dot opacity]⟩
    (∀ opacity, ∃ tree, (({} : Session).style (faded opacity)).1 = some tree ∧
      tree.source = (dot opacity).toNodeData ∧ opacity? tree.styles = some (.num 0.5)) ∧
    ((0.5 : Float) == 0.5 * 0.5) = false := by
  intro dot faded
  refine ⟨fun opacity => ?_, by decide⟩
  have group : (faded opacity).kind = .group := rfl
  have children : keptData {} [dot opacity] = [(dot opacity).toNodeData] := rfl
  obtain ⟨t, styled, source⟩ : ∃ t, (styleAll {} {} (0.0 + (faded opacity).rotationDegrees) false
      [dot opacity] ∅).1 = [((dot opacity).toNodeData, t)] ∧ t.source = (dot opacity).toNodeData := by
    rw [styleAll_cons rfl, styleNode_box rfl (show NodeKind.rectangle ≠ .group by decide) rfl]
    exact ⟨_, rfl, source_settle _⟩
  have wrapped : (styleNode {} {} 0.0 (faded opacity) ∅).1 = _ :=
    congrArg Prod.fst (styleNode_wrapper rfl group children)
  dsimp only at wrapped
  rw [styled] at wrapped
  refine ⟨_, wrapped, source, ?_⟩
  have half : isFaded (faded opacity).toNodeData = true := by
    show ((0.5 : Float) != 1.0) = true
    decide
  exact (opacity?_inlinePatch group ∅ _ _ _).trans (if_pos half)

end Handoff.Styling
