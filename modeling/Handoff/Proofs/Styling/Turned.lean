import Handoff.Proofs.Styling.Inherited

/-!
# How groups turn what they give way to

A node that is shown ends a CHAIN: the groups that gave way one to the next, and then to it.  Its
styles turn it by the rotations of the chain from the first group on that hands its own rotation on.
A group that its parent lays out hands nothing on, and neither does one whose place is not known.

* `rotation?_nodeStyles`, `rotation?_stackStyles`   a node turns by itself, unless it is a stack;
* `handsOn`, `rotation?_inlinePatch`   what a group hands on;
* `Chained`, `chain`        the chain at the end of a way, and what holds it;
* `turning`                 the part of a chain that turns its last node;
* `turn?`                   what the styles of that node say, `turns` that they do;
* `turn?_eq_rotationStyle?` these are the rotations of that part, but in two cases;
* `rotation_styles`         how the nodes of a styled tree are turned;
* `rotation_of_placed_group`   a rotation that is handed on to nobody.
-/

namespace Handoff.Styling
open DesignNode Address

/-! ## who writes the rotation of a node -/

/-- how a node is turned -/
def rotation? (s : Styles) : Option StyleValue := s.get? "transform"

theorem rotation?_write {keys : List String} {ds : List Declaration} (h : Keyed keys ds)
    (other : "transform" ∉ keys) (s : Styles) : rotation? (s.write ds) = rotation? s :=
  h.get?_write other s

theorem rotation?_put (s : Styles) (value : String) :
    rotation? (s.put "position" value) = rotation? s := by
  rw [rotation?, Styles.put, Dict.get?_set, if_neg (by decide)]
  rfl

theorem rotation?_turned (s : Styles) (value : String) :
    rotation? (s.write [declare "transform" value]) = some (.text value) := by
  have set : (Dict.set s "transform" (.text value)).get? "transform" = some (.text value) := by
    rw [Dict.get?_set, if_pos rfl]
  exact set

/-- a node that is no group turns by itself -/
theorem rotation?_nodeStyles (vs : Variables) (parent : ParentContext) (n : NodeData)
    (hasChildren : Bool) : rotation? (nodeStyles vs parent n hasChildren)
      = if n.rotationDegrees != 0.0 then some (.text (rotateText n.rotationDegrees)) else none := by
  obtain ⟨ds, effects, e⟩ := nodeStyles_eq vs parent n hasChildren
  -- all that is written before the node turns leaves the rotation
  have before : rotation? (Styles.write ∅ (general vs n ++ layout n parent hasChildren
      ++ fills vs n ++ strokes vs n ++ ds ++ (typography n ++ shape n))) = none := by
    rw [write_append, write_append, rotation?_write (keyed_shape n) (by decide),
      rotation?_write (keyed_typography n) (by decide), write_append,
      rotation?_write effects (by decide), write_append,
      rotation?_write (keyed_strokes vs n) (by decide), write_append,
      rotation?_write (keyed_fills vs n) (by decide), write_append,
      rotation?_write (keyed_layout n parent hasChildren) (by decide),
      rotation?_write (keyed_general vs n) (by decide)]
    rfl
  rw [e, ← List.append_assoc, write_append]
  generalize Styles.write ∅ _ = styles at before ⊢
  cases n.rotationDegrees != 0.0 with
  | true => exact rotation?_turned _ _
  | false => exact before

/-- a stack does not turn -/
theorem rotation?_stackStyles (group : NodeData) (parent : ParentContext) :
    rotation? (stackStyles group parent) = none := by
  unfold stackStyles
  rw [write_append, rotation?_write (keyed_groupOpacity group) (by decide), write_append,
    rotation?_write (keyed_stackPosition group parent) (by decide)]
  rfl

/-- a group that hands its own rotation on to what it gives way to: it is absolute, and its bounds
are known as well as those of the box around it -/
def handsOn (box : Option Rect) (group : NodeData) : Bool :=
  group.isAbsolute && (group.rotationDegrees != 0.0 && group.bounds.isSome && box.isSome)

theorem rotation?_groupPlace (group child : NodeData) (parent : ParentContext) (s : Styles) :
    rotation? (s.write (groupPlace group child parent))
      = if group.rotationDegrees != 0.0 && group.bounds.isSome && parent.bounds.isSome
        then some (.text (composedRotation group.rotationDegrees child.rotationDegrees))
        else rotation? s := by
  unfold groupPlace
  split
  · next turned bounds box =>
    rw [turned, bounds, box, write_append, rotation?_write (keyed_sizeOf group.size) (by decide)]
    exact rotation?_turned _ _
  · next unknown =>
    have still : (group.rotationDegrees != 0.0 && group.bounds.isSome && parent.bounds.isSome)
        = false := by
      refine Bool.eq_false_iff.mpr fun known => ?_
      simp only [Bool.and_eq_true, Option.isSome_iff_exists] at known
      obtain ⟨⟨turned, _, bounds⟩, _, box⟩ := known
      exact unknown _ _ turned bounds box
    rw [still, if_neg Bool.false_ne_true]
    split
    · exact rotation?_write (keyed_cons (List.mem_cons_self (a := "left"))
        (keyed_cons (List.mem_cons_of_mem _ (List.mem_singleton_self "top")) keyed_nil))
        (by decide) s
    · rfl

/-- a group that hands its rotation on puts it before that of the next node; any other group leaves
the rotation of what it gives way to -/
theorem rotation?_inlinePatch (group child : NodeData) (parent : ParentContext) (s : Styles) :
    rotation? ((inlinePatch group child parent).apply s) = if handsOn parent.bounds group
      then some (.text (composedRotation group.rotationDegrees child.rotationDegrees))
      else rotation? s := by
  have assigned (ds : List Declaration) :
      rotation? ((StylePatch.setAll ∅ ds).apply s) = rotation? (s.write ds) :=
    StylePatch.get?_apply_setAll ∅ ds s "transform"
  unfold inlinePatch handsOn
  dsimp only
  rw [assigned, write_append, rotation?_write (keyed_groupOpacity group) (by decide)]
  cases group.isAbsolute with
  | false => rfl
  | true =>
    rw [if_pos rfl, Bool.true_and]
    show rotation? ((s.put "position" "absolute").write (groupPlace group child parent)) = _
    rw [rotation?_groupPlace, rotation?_put]

/-! ## chains -/

/-- a way that is split into the nodes above a chain and the chain -/
structure Chained (p : Policy) (above chain : List DesignNode) : Prop where
  through : Through p chain
  held : ∀ n ∈ above.getLast?, ¬ GivesWay p n

/-- the bounds of what holds a chain: of the last node above it, or those of the outside -/
def boxBelow (outside : Option Rect) (above : List DesignNode) : Option Rect :=
  (above.getLast?.map fun n => n.bounds).getD outside

theorem boxBelow_cons (outside : Option Rect) (n : DesignNode) (above : List DesignNode) :
    boxBelow outside (n :: above) = boxBelow n.bounds above := by
  unfold boxBelow
  rw [List.getLast?_cons]
  cases above.getLast? <;> rfl

/-- the chain at the end of a way, and the bounds of what holds it -/
def chain (p : Policy) (outside : Option Rect) : List DesignNode → Option Rect × List DesignNode
  | [] => (outside, [])
  | n :: way =>
    if Through p (n :: way) then (outside, n :: way) else chain p n.bounds way

section
variable {p : Policy} {outside : Option Rect} {n : DesignNode} {way : List DesignNode}

theorem chain_through (h : Through p way) : chain p outside way = (outside, way) := by
  cases way with
  | nil => rfl
  | cons n way => rw [chain, if_pos h]

theorem chain_held (h : ¬ Through p (n :: way)) :
    chain p outside (n :: way) = chain p n.bounds way := by
  rw [chain, if_neg h]

/-- what is outside of a way does not matter to a chain that is held on the way -/
theorem chain_outside (h : ¬ Through p way) (other : Option Rect) :
    chain p outside way = chain p other way := by
  cases way with
  | nil => exact absurd (List.forall_mem_nil _) h
  | cons n way => rw [chain_held h, chain_held h]

/-- a chain is held by a node that does not give way -/
theorem chain_solid (solid : ¬ GivesWay p n) (filled : way ≠ []) :
    chain p outside (n :: way) = chain p n.bounds way :=
  chain_held fun through => solid ((through_cons filled).mp through).1

/-- what is in front of a way does not matter to a chain that is held on the way -/
theorem chain_behind (held : ¬ Through p way) :
    chain p outside (n :: way) = chain p outside way := by
  have filled : way ≠ [] := by
    rintro rfl
    exact held (List.forall_mem_nil _)
  rw [chain_held fun through => held ((through_cons filled).mp through).2]
  exact chain_outside held outside

/-- a node in front of a way is above the chain if the way does not go through it -/
theorem Chained.cons {above members : List DesignNode} (chained : Chained p above members)
    (filled : above ++ members ≠ []) (h : ¬ Through p (n :: (above ++ members))) :
    Chained p (n :: above) members := by
  refine ⟨chained.through, fun m hm => ?_⟩
  rw [List.getLast?_cons] at hm
  cases found : above.getLast? with
  | some m' =>
    rw [found] at hm
    exact chained.held m (found ▸ hm)
  | none =>
    -- nothing else is above the chain, so it would begin with `n` if that gave way
    rw [found] at hm
    obtain rfl : n = m := Option.some.inj hm
    obtain rfl := List.getLast?_eq_none_iff.mp found
    exact fun give => h ((through_cons filled).mpr ⟨give, chained.through⟩)

/-- a way is what is above its chain, and the chain -/
theorem chain_spec (outside : Option Rect) (h : way ≠ []) : ∃ above,
    way = above ++ (chain p outside way).2 ∧ (chain p outside way).2 ≠ [] ∧
    Chained p above (chain p outside way).2 ∧
    (chain p outside way).1 = boxBelow outside above := by
  induction way generalizing outside with
  | nil => exact absurd rfl h
  | cons n way ih =>
    by_cases through : Through p (n :: way)
    · rw [chain_through through]
      exact ⟨[], rfl, h, ⟨through, fun _ none => nomatch none⟩, rfl⟩
    · have filled : way ≠ [] := by
        rintro rfl
        exact through (through_single p n)
      obtain ⟨above, split, last, chained, box⟩ := ih n.bounds filled
      rw [chain_held through]
      refine ⟨n :: above, congrArg (n :: ·) split, last, chained.cons ?_ ?_, ?_⟩
      · rw [← split]
        exact filled
      · rw [← split]
        exact through
      · rw [box, boxBelow_cons]

end

/-! ## what turns the last node of a chain -/

def isTurned (n : DesignNode) : Bool := n.rotationDegrees != 0.0

/-- the part of a chain from the first group that hands its rotation on, or the last node alone -/
def turning (box : Option Rect) : List DesignNode → List DesignNode
  | [] => []
  | [n] => [n]
  | n :: m :: ms => if handsOn box n.toNodeData then n :: m :: ms else turning box (m :: ms)

/-- the style that turns a node by the rotations of some nodes, one after the other -/
def rotationStyle? (ms : List DesignNode) : Option StyleValue :=
  let turned := ms.filter isTurned
  if turned.isEmpty then none
  else some (.text (" ".intercalate (turned.map fun n => rotateText n.rotationDegrees)))

/-- the style that turns the last node of a chain -/
def turn? (box : Option Rect) : List DesignNode → Option StyleValue
  | [] => none
  | [n] =>
    if n.kind ≠ .group && isTurned n then some (.text (rotateText n.rotationDegrees)) else none
  | n :: m :: ms =>
    if handsOn box n.toNodeData then
      some (.text (composedRotation n.rotationDegrees m.rotationDegrees))
    else turn? box (m :: ms)

/-- of the nodes that turn another one only the first two have a rotation, and a stack that turns by
itself has none -/
structure SimplyTurned (ms : List DesignNode) : Prop where
  front : ∀ n ∈ ms.drop 2, isTurned n = false
  stack : ∀ n, ms = [n] → n.kind = .group → isTurned n = false

theorem isTurned_of_handsOn {box : Option Rect} {n : DesignNode}
    (h : handsOn box n.toNodeData = true) : isTurned n = true := by
  unfold handsOn at h
  simp only [Bool.and_eq_true] at h
  exact h.2.1.1

/-- a group that hands its rotation on sees that of the next node too -/
theorem rotationStyle?_composed {n m : DesignNode} {ms : List DesignNode}
    (first : isTurned n = true) (rest : ∀ k ∈ ms, isTurned k = false) :
    rotationStyle? (n :: m :: ms)
      = some (.text (composedRotation n.rotationDegrees m.rotationDegrees)) := by
  have still : ms.filter isTurned = [] :=
    List.filter_eq_nil_iff.mpr fun k hk => Bool.eq_false_iff.mp (rest k hk)
  unfold rotationStyle? composedRotation
  rw [List.filter_cons_of_pos first, List.filter_cons, still]
  cases second : isTurned m with
  | true =>
    have other : (m.rotationDegrees == 0.0) = false := by
      rw [isTurned, bne, Bool.not_eq_true'] at second
      exact second
    rw [if_pos rfl, other]
    rfl
  | false =>
    have zero : (m.rotationDegrees == 0.0) = true := by
      rw [isTurned, bne, Bool.not_eq_false'] at second
      exact second
    rw [if_neg Bool.false_ne_true, zero]
    rfl

/-- a chain turns its last node by the rotations of the part that turns it -/
theorem turn?_eq_rotationStyle? {box : Option Rect} {ms : List DesignNode}
    (simple : SimplyTurned (turning box ms)) : turn? box ms = rotationStyle? (turning box ms) := by
  induction ms with
  | nil => rfl
  | cons n ms ih =>
    cases ms with
    | nil =>
      have stack := simple.stack n rfl
      unfold turn? turning rotationStyle?
      cases turned : isTurned n with
      | false =>
        rw [List.filter_cons_of_neg (by rw [turned]; exact Bool.false_ne_true), Bool.and_false]
        rfl
      | true =>
        have noGroup : n.kind ≠ .group := fun group => by
          rw [stack group] at turned
          cases turned
        rw [List.filter_cons_of_pos turned, decide_eq_true noGroup]
        rfl
    | cons m ms =>
      unfold turn?
      unfold turning at simple ⊢
      cases hands : handsOn box n.toNodeData with
      | true =>
        rw [hands, if_pos rfl] at simple
        rw [if_pos rfl, if_pos rfl]
        exact (rotationStyle?_composed (isTurned_of_handsOn hands) simple.front).symm
      | false =>
        rw [hands, if_neg Bool.false_ne_true] at simple
        rw [if_neg Bool.false_ne_true, if_neg Bool.false_ne_true]
        exact ih simple

/-! ## styled trees -/

/-- what a styled node says of its rotation is what its chain says -/
def turns (p : Policy) : Reading p (Option StyleValue) where
  read n := rotation? n.styles
  expected parent _ way :=
    let c := chain p parent.bounds way
    turn? c.1 c.2
  lasting _ _ _ h := h "transform" (by decide)
  own parent r n hasChildren name noGroup := by
    dsimp only
    rw [chain_through (through_single p n)]
    unfold turn?
    rw [decide_eq_true noGroup, Bool.true_and]
    exact rotation?_nodeStyles p.variableTable parent n.toNodeData hasChildren
  stack parent r n name group := by
    dsimp only
    rw [chain_through (through_single p n), rotation?_stackStyles]
    unfold turn?
    rw [decide_eq_false (not_not_intro group)]
    rfl
  inBox parent r n way noGroup some := by
    dsimp only
    rw [chain_solid (not_givesWay_of_noGroup noGroup) some]
    rfl
  inStack parent r n way _ solid some := by
    dsimp only
    rw [chain_solid solid some]
    rfl
  behind parent r n way _ held := by
    dsimp only
    rw [chain_behind held]
  patched parent r n c way d give through h := by
    have further : Through p (n :: c :: way) :=
      (through_cons (List.cons_ne_nil c way)).mpr ⟨give, through⟩
    dsimp only at h ⊢
    rw [chain_through through] at h
    rw [chain_through further, rotation?_inlinePatch, h]
    rfl

/-- **How groups turn what they give way to.**  The nodes of a styled tree stand for the nodes that
are left of the design, and the way to the source of each ends in a chain: the groups that gave way
to it, the outermost first, and the source.  The rotation in its styles is that of the chain from
the first group on that hands its rotation on, or of the source alone: by each rotation there, one
after the other, and none where nothing is turned.  It is not said what happens where rotations come
after the first two, and where a stack is turned that no group hands a rotation on to. -/
theorem rotation_styles (s : Session) (root : DesignNode) : ∃ left, Left s.policy root left ∧
    (∀ e ∈ left, (root.path e.1).getLast? = some e.2) ∧
    List.Forall₂ (fun m e => m.source = e.2.toNodeData ∧ ∃ above chain,
        root.path e.1 = above ++ chain ∧ chain ≠ [] ∧ Chained s.policy above chain ∧
        let part := turning (boxBelow none above) chain
        (SimplyTurned part → m.styles.get? "transform" = rotationStyle? part))
      ((s.style root).1.toList.flatMap StyledNode.preOrder) left := by
  have left := left_shown s.policy root
  refine ⟨shown s.policy root, left, fun e he => getLast?_path (left.part.subset he), ?_⟩
  refine ((turns s.policy).forall₂_styleNode root {} 0.0 s.names).imp fun m e h => ?_
  obtain ⟨source, turn⟩ := h
  obtain ⟨above, split, last, chained, box⟩ :=
    chain_spec (p := s.policy) none (path_ne_nil root e.1)
  refine ⟨source, above, _, split, last, chained, fun simple => ?_⟩
  rw [← box] at simple ⊢
  exact turn.trans (turn?_eq_rotationStyle? simple)

/-- an absolute group in a frame, and the chip in it: both are turned, and so is the chip in the
styled tree by both -/
theorem rotation_styles_chip :
    let box : Rect := ⟨0.0, 0.0, 200.0, 200.0⟩
    let chip : DesignNode := ⟨{
      id := "3", name := "Chip", kind := .rectangle, rotation := 0.75
      payload := .shape {} {} {} }, []⟩
    let tilted : DesignNode := ⟨{
      id := "2", name := "Tilted", kind := .group, rotation := 0.5, bounds := some box
      layoutChild := { positioning := .absolute } }, [chip]⟩
    let frame : DesignNode := ⟨{
      id := "1", name := "Frame", kind := .frame, bounds := some box
      payload := .container {} }, [tilted]⟩
    frame.path [0, 0] = [frame] ++ [tilted, chip] ∧ Chained {} [frame] [tilted, chip] ∧
      turning (boxBelow none [frame]) [tilted, chip] = [tilted, chip] ∧
      SimplyTurned [tilted, chip] ∧
      ∃ left, Left {} frame left ∧
        (∀ e ∈ left, (frame.path e.1).getLast? = some e.2) ∧
        List.Forall₂ (fun m e => m.source = e.2.toNodeData ∧ ∃ above chain,
            frame.path e.1 = above ++ chain ∧ chain ≠ [] ∧ Chained {} above chain ∧
            let part := turning (boxBelow none above) chain
            (SimplyTurned part → m.styles.get? "transform" = rotationStyle? part))
          ((({} : Session).style frame).1.toList.flatMap StyledNode.preOrder) left := by
  intro box chip tilted frame
  refine ⟨rfl, ⟨by decide, ?_⟩, ?_, ⟨List.forall_mem_nil _, ?_⟩, rotation_styles {} frame⟩
  · rintro n found
    obtain rfl : frame = n := Option.some.inj found
    decide
  · have hands : handsOn (boxBelow none [frame]) tilted.toNodeData = true := by decide
    rw [turning, if_pos hands]
  · intro n alone
    cases alone

/-- a frame places a group that is turned, so the chip in it is not turned -/
theorem rotation_of_placed_group :
    let chip : DesignNode := ⟨{
      id := "3", name := "Chip", kind := .rectangle, payload := .shape {} {} {} }, []⟩
    let tilted : DesignNode :=
      ⟨{ id := "2", name := "Tilted", kind := .group, rotation := 0.5 }, [chip]⟩
    let frame : DesignNode :=
      ⟨{ id := "1", name := "Frame", kind := .frame, payload := .container {} }, [tilted]⟩
    frame.path [0, 0] = [frame] ++ [tilted, chip] ∧ Chained {} [frame] [tilted, chip] ∧
      rotationStyle? [tilted, chip] = some (.text (rotateText tilted.rotationDegrees)) ∧
      ((({} : Session).style frame).1.toList.flatMap StyledNode.preOrder).map
          (fun m => (m.id, m.styles.contains "transform")) = [("1", false), ("3", false)] := by
  intro chip tilted frame
  refine ⟨rfl, ⟨by decide, ?_⟩, ?_, by decide⟩
  · rintro n found
    obtain rfl : frame = n := Option.some.inj found
    decide
  · have turned : isTurned tilted = true := by decide
    have still : ¬ isTurned chip = true := by decide
    rw [rotationStyle?, List.filter_cons_of_pos turned, List.filter_cons_of_neg still]
    rfl

end Handoff.Styling
