import Handoff.Proofs.Styling.Cells

/-!
# The siblings of absolute children

A box that holds absolute children gives all others a position too, so that they are painted in the
order in which they stand.  It does so together with its own position: a box that takes a place by
itself is left out, and so are its children, even if it is taken off its place later.

* `placesItself`            a node that takes a place by itself, and `position?_nodeStyles`;
* `Staged`                  a root has a relative position when it has children to hold;
* `Ordered`                 the children of a box beside its absolute ones;
* `ordered_styleNode`       the nodes of a styled tree are like this;
* `relative_siblings`       which siblings of absolute children have a relative position;
* `siblings_of_placed_panel`   those that have none.
-/

namespace Handoff.Styling
open StyledNode

/-! ## who takes a place by itself -/

/-- a node that is no group takes a place by itself if it is to be placed, and its bounds are known
as well as those of its parent -/
def placesItself (n : NodeData) (parent : ParentContext) : Bool :=
  n.bounds.isSome && parent.bounds.isSome && isPlaced n parent

theorem position?_position (n : NodeData) (parent : ParentContext) (s : Styles) :
    position? (s.write (position n parent))
      = if placesItself n parent then some (.text "absolute") else position? s := by
  unfold position placesItself
  cases n.bounds with
  | none => rfl
  | some bounds =>
    cases parent.bounds with
    | none => rfl
    | some parentBounds =>
      simp only [Option.isSome_some, Bool.true_and]
      split
      · exact position?_absolute offsets_ne_position
      · rfl

/-- a node that is no group has a position if it takes a place by itself -/
theorem position?_nodeStyles (vs : Variables) (parent : ParentContext) (n : NodeData)
    (hasChildren : Bool) : position? (nodeStyles vs parent n hasChildren)
      = if placesItself n parent then some (.text "absolute") else none := by
  obtain ⟨ds, late, e⟩ := nodeStyles_split vs parent n hasChildren
  have other {keys : List String} {ds : List Declaration} (h : Keyed keys ds)
      (free : "position" ∉ keys) (s : Styles) : position? (s.write ds) = position? s :=
    h.get?_write free s
  have before : position? (Styles.write ∅ (general vs n ++ container n parent)) = none :=
    other ((keyed_general vs n).both (keyed_container n parent)) (by decide) ∅
  rw [e, write_append, other late (by decide), layout, ← List.append_assoc, ← List.append_assoc,
    ← List.append_assoc, write_append, other (keyed_size n parent hasChildren) (by decide),
    write_append, other (keyed_gridSpans n) (by decide), write_append, position?_position, before]

/-! ## boxes -/

/-- a root that is not absolute has a position when it has children to hold, unless it is a stack -/
def Staged (n : StyledNode) : Prop :=
  n.isAbsolute = false →
    (position? n.styles = some (.text "relative") ↔ n.isGroup = false ∧ n.isCrowded = true)

/-- the children of a box beside its absolute ones: they have a position, unless the box takes a
place by itself and they have nothing to hold -/
def Ordered (parent : ParentContext) (n : StyledNode) : Prop :=
  n.isGroup = false → n.hasAbsolute = true → ∀ c ∈ n.children, c.isAbsolute = false →
    (position? c.styles = some (.text "relative") ↔
      placesItself n.source parent = false ∨ c.isGroup = false ∧ c.isCrowded = true)

/-- it does not matter here what the styles of the node are -/
theorem Ordered.congr {parent : ParentContext} {n n' : StyledNode} (source : n'.source = n.source)
    (children : n'.children = n.children) (h : Ordered parent n) : Ordered parent n' := by
  unfold Ordered hasAbsolute StyledData.isGroup StyledData.kind at h ⊢
  rw [source, children]
  exact h

theorem isCrowded_settle (n : StyledNode) : (settle n).isCrowded = n.isCrowded := by
  have absolute := hasAbsolute_settle n
  obtain ⟨ns, order, settled⟩ := settle_eq n
  have empty : ns.isEmpty = n.children.isEmpty := by
    rcases order with rfl | rfl
    · rfl
    · exact isEmpty_reversePainting n.children
  rw [isCrowded, absolute, settled]
  split
  · rw [List.isEmpty_map, empty]
    rfl
  · rw [empty]
    rfl

theorem isGroup_settle (n : StyledNode) : (settle n).isGroup = n.isGroup := by
  rw [StyledData.isGroup, StyledData.kind, source_settle]
  rfl

theorem position?_settle (n : StyledNode) : position? (settle n).styles
    = if n.isCrowded && !n.isAbsolute then some (.text "relative") else position? n.styles := by
  obtain ⟨ns, -, settled⟩ := settle_eq n
  rw [settled]
  split
  · exact position?_put n.styles "relative"
  · rfl

/-- the children of a box that is absolute already keep their positions -/
theorem staged_of_mem_reversePainting {ns : List StyledNode} (h : ∀ n ∈ ns, Staged n) :
    ∀ n ∈ reversePainting ns, Staged n := by
  intro n' hn'
  obtain ⟨⟨n, i⟩, hn, rfl⟩ := List.mem_map.mp hn'
  have staged := h n ((List.mem_zipIdx' hn).2 ▸ List.getElem_mem _)
  have same := position?_painted n (Float.ofNat (ns.length - i))
  intro free
  rw [same]
  exact staged ((isAbsolute_congr same).symm.trans free)

section
variable (p : Policy) (parent : ParentContext) (r : Float) (d : NodeData) (hasChildren : Bool)
  (name : String) (children : List StyledNode)

/-- a box that takes a place by itself is absolute, any other one is not -/
theorem isAbsolute_nodeData :
    (nodeData p parent r d hasChildren name).isAbsolute = placesItself d parent := by
  have position : position? (nodeData p parent r d hasChildren name).styles = _ :=
    position?_nodeStyles p.variableTable parent d hasChildren
  cases own : placesItself d parent with
  | true => exact isAbsolute_of_absolute (by rw [position, own, if_pos rfl])
  | false =>
    exact isAbsolute_of_none (by rw [position, own, if_neg Bool.false_ne_true])

/-- a drawing has no children to hold, so it has no relative position -/
theorem staged_drawing : Staged ⟨nodeData p parent r d hasChildren name, []⟩ := by
  have position : position? (nodeData p parent r d hasChildren name).styles = _ :=
    position?_nodeStyles p.variableTable parent d hasChildren
  have empty : isCrowded ⟨nodeData p parent r d hasChildren name, []⟩ = false := by
    rw [isCrowded, List.isEmpty_nil, Bool.not_true, Bool.and_false]
    rfl
  intro free
  rw [isAbsolute_nodeData] at free
  rw [position, free, empty]
  simp

/-- a box that takes no place by itself has a position as soon as it has children to hold -/
theorem staged_settle (noGroup : d.kind ≠ .group) :
    Staged (settle ⟨nodeData p parent r d hasChildren name, children⟩) := by
  have kind : (nodeData p parent r d hasChildren name).isGroup = false := decide_eq_false noGroup
  have position : position? (nodeData p parent r d hasChildren name).styles = _ :=
    position?_nodeStyles p.variableTable parent d hasChildren
  intro free
  rw [isAbsolute_settle, isAbsolute_nodeData] at free
  rw [position?_settle, isAbsolute_nodeData, isGroup_settle, isCrowded_settle, position, free, kind]
  cases isCrowded ⟨nodeData p parent r d hasChildren name, children⟩ <;> simp

/-- a box that takes no place by itself gives its children positions beside its absolute ones, any
other box leaves them as they are -/
theorem ordered_settle (staged : ∀ c ∈ children, Staged c) :
    Ordered parent (settle ⟨nodeData p parent r d hasChildren name, children⟩) := by
  intro noGroup absolute c' hc' free
  rw [hasAbsolute_settle] at absolute
  have crowded : isCrowded ⟨nodeData p parent r d hasChildren name, children⟩ = true := by
    rw [isCrowded, absolute, Bool.true_or]
  have source : (settle ⟨nodeData p parent r d hasChildren name, children⟩).source = d :=
    source_settle _
  obtain ⟨ns, order, settled⟩ := settle_eq ⟨nodeData p parent r d hasChildren name, children⟩
  rw [crowded, isAbsolute_nodeData, Bool.true_and] at settled
  rw [source]
  cases own : placesItself d parent with
  | true =>
    rw [own, if_neg (by decide)] at settled
    rw [settled] at hc'
    have kept : ∀ c ∈ ns, Staged c := by
      rcases order with rfl | rfl
      · exact staged
      · exact staged_of_mem_reversePainting staged
    exact (kept c' hc' free).trans (by simp)
  | false =>
    rw [own, if_pos (by decide)] at settled
    rw [settled] at hc'
    obtain ⟨c, -, rfl⟩ := List.mem_map.mp hc'
    rw [isAbsolute_makeRelative] at free
    have relative : position? (makeRelative c).styles = some (.text "relative") := by
      rw [makeRelative, free, if_neg Bool.false_ne_true]
      exact position?_put c.styles "relative"
    exact iff_of_true relative (.inl rfl)

end

/-! ## styled trees -/

/-- what a node tells its children of itself, as far as it matters to their places -/
def contextIn (m : NodeData) : ParentContext :=
  if m.kind = .group then stackContext m {} else .of m

/-- only the bounds of a stack matter to the places of its children -/
theorem Ordered.inStack {d : NodeData} {parent : ParentContext} {n : StyledNode}
    (group : d.kind = .group) (h : Ordered (stackContext d parent) n) :
    Ordered (contextIn d) n := by
  rw [contextIn, if_pos group]
  exact h

theorem staged_stack {parent : ParentContext} {r : Float} {group : NodeData} {mask : Option String}
    {name : String} {children : List (NodeData × StyledNode)} {tree : StyledNode}
    (kind : group.kind = .group) (h : stack? parent r group mask name children = some tree) :
    tree.isGroup = true ∧ Staged tree := by
  obtain rfl := eq_of_stack? h
  have isGroup : (decide (group.kind = .group)) = true := decide_eq_true kind
  refine ⟨isGroup, fun free => ?_⟩
  have position := position?_stackStyles group parent
  split at position
  · -- a stack that is placed is absolute
    exact absurd ((isAbsolute_of_absolute position).symm.trans free) (by decide)
  · refine iff_of_false (fun relative => ?_) fun other => ?_
    · exact absurd (position.symm.trans relative) nofun
    · exact absurd (isGroup.symm.trans other.1) (by decide)

/-- the roots of styled trees have positions as they have children to hold, and so have the children
of all boxes beside their absolute ones -/
theorem ordered_styleNode (p : Policy) (n : DesignNode) (parent : ParentContext) (r : Float)
    (names : NameRegistry) : ∀ tree ∈ (styleNode p parent r n names).1,
      (Staged tree ∧ Ordered parent tree) ∧ tree.EachChild fun m c => Ordered (contextIn m) c := by
  refine eachChild_styleNode p (O := fun parent t => Staged t ∧ Ordered parent t) ?wrapper ?stack
    ?drawing ?box ?stacked ?settled n parent r names
  case wrapper =>
    intro parent d only c ⟨staged, ordered⟩
    refine ⟨fun free => ?_, ordered.congr rfl rfl⟩
    have position := position?_inlinePatch d only parent c.styles
    split at position
    · exact absurd ((isAbsolute_of_absolute position).symm.trans free) (by decide)
    · exact (iff_of_eq (congrArg (· = _) position)).trans
        (staged ((isAbsolute_congr position).symm.trans free))
  case stack =>
    intro parent r d mask name children group tree h
    obtain ⟨isGroup, staged⟩ := staged_stack group h
    exact ⟨staged, fun other => absurd (isGroup.symm.trans other) (by decide)⟩
  case drawing =>
    intro parent r d hasChildren name _
    exact ⟨staged_drawing p parent r d hasChildren name, fun _ absolute => nomatch absolute⟩
  case box =>
    exact fun parent r d hasChildren name children noGroup below =>
      ⟨staged_settle p parent r d hasChildren name children noGroup,
        ordered_settle p parent r d hasChildren name children fun c hc => (below c hc).1⟩
  case stacked =>
    exact fun parent d mask source c group h =>
      (h.2.inStack group).congr (source_onStack ..) (children_onStack ..)
  case settled =>
    intro d children noGroup below c' hc'
    obtain ⟨c, hc, position⟩ := repositioned_of_mem_settle hc'
    rw [contextIn, if_neg noGroup]
    exact (below c hc).2.congr position.source position.children

/-- **Which siblings of absolute children have a relative position.**  In the styled tree of a design,
let a box, no stack, have an absolute child.  If the box takes no place by itself, as the root never
does, all its other children have a relative position.  If it does, only those of them have one that
have children of their own to hold and are no stacks. -/
theorem relative_siblings (s : Session) (design : DesignNode) {tree n c : StyledNode}
    (h : (s.style design).1 = some tree) (hn : n ∈ tree.preOrder) (box : n.isGroup = false)
    (absolute : n.hasAbsolute = true) (hc : c ∈ n.children) (free : c.isAbsolute = false) :
    (n = tree → position? c.styles = some (.text "relative")) ∧
      ∀ m ∈ tree.preOrder, n ∈ m.children →
        (position? c.styles = some (.text "relative") ↔
          placesItself n.source (contextIn m.source) = false ∨
            c.isGroup = false ∧ c.isCrowded = true) := by
  obtain ⟨⟨-, root⟩, below⟩ := ordered_styleNode s.policy design {} 0.0 s.names tree h
  refine ⟨?_, fun m hm child => below m hm n child box absolute c hc free⟩
  rintro rfl
  refine (root box absolute c hc free).mpr (.inl ?_)
  rw [placesItself, show ({} : ParentContext).bounds = none from rfl, Option.isSome_none,
    Bool.and_false, Bool.false_and]

/-- a stage that is laid out, with a badge that is not, and the text beside it -/
theorem relative_siblings_stage :
    let flow : DesignNode := ⟨{
      id := "2", name := "Flow", kind := .rectangle, payload := .shape {} {} {} }, []⟩
    let badge : DesignNode := ⟨{
      id := "3", name := "Badge", kind := .rectangle, bounds := some ⟨90.0, 5.0, 10.0, 10.0⟩
      layoutChild := { positioning := .absolute }, constraints := some ⟨.max, .min⟩
      payload := .shape {} {} {} }, []⟩
    let stage : DesignNode := ⟨{
      id := "1", name := "Stage", kind := .frame, bounds := some ⟨0.0, 0.0, 100.0, 100.0⟩
      payload := .container { layout := { mode := .vertical } } }, [flow, badge]⟩
    ∃ tree c, (({} : Session).style stage).1 = some tree ∧ tree.isGroup = false ∧
      tree.hasAbsolute = true ∧ c ∈ tree.children ∧ c.id = "2" ∧ c.isAbsolute = false ∧
      position? c.styles = some (.text "relative") := by
  intro flow badge stage
  have seen : (({} : Session).style stage).1.map (fun t => (t.isGroup, t.hasAbsolute,
      t.children.map fun c => (c.id, c.isAbsolute)))
        = some (false, true, [("2", false), ("3", true)]) := by
    decide
  obtain ⟨tree, styled, parts⟩ := Option.map_eq_some_iff.mp seen
  obtain ⟨box, parts⟩ := Prod.mk.inj parts
  obtain ⟨absolute, children⟩ := Prod.mk.inj parts
  obtain ⟨c, hc, same⟩ := List.mem_map.mp (children ▸ List.mem_cons_self)
  obtain ⟨id, free⟩ := Prod.mk.inj same
  have self := tree.mem_preOrder_self
  exact ⟨tree, c, styled, box, absolute, hc, id, free,
    (relative_siblings {} stage styled self box absolute hc free).1 rfl⟩

/-- a panel that is placed in a window, with a badge that is placed in the panel: what stands beside
the badge has no position -/
theorem siblings_of_placed_panel :
    let flow : DesignNode := ⟨{
      id := "3", name := "Flow", kind := .rectangle, payload := .shape {} {} {} }, []⟩
    let badge : DesignNode := ⟨{
      id := "4", name := "Badge", kind := .rectangle, bounds := some ⟨90.0, 5.0, 10.0, 10.0⟩
      constraints := some ⟨.max, .min⟩, payload := .shape {} {} {} }, []⟩
    let panel : DesignNode := ⟨{
      id := "2", name := "Panel", kind := .frame, bounds := some ⟨0.0, 0.0, 100.0, 100.0⟩
      constraints := some ⟨.min, .min⟩, payload := .container {} }, [flow, badge]⟩
    let window : DesignNode := ⟨{
      id := "1", name := "Window", kind := .frame, bounds := some ⟨0.0, 0.0, 200.0, 200.0⟩
      payload := .container {} }, [panel]⟩
    ∃ tree, (({} : Session).style window).1 = some tree ∧
      ∃ n ∈ tree.preOrder, n.isGroup = false ∧ n.hasAbsolute = true ∧
        ∃ c ∈ n.children, c.isAbsolute = false ∧ position? c.styles = none := by
  intro flow badge panel window
  have seen : (({} : Session).style window).1.map (fun t => t.preOrder.any fun n =>
      !n.isGroup && n.hasAbsolute && n.children.any fun c =>
        !c.isAbsolute && (position? c.styles).isNone) = some true := by
    decide
  obtain ⟨tree, styled, found⟩ := Option.map_eq_some_iff.mp seen
  simp only [List.any_eq_true, Bool.and_eq_true, Bool.not_eq_true', Option.isNone_iff_eq_none]
    at found
  obtain ⟨n, hn, ⟨box, absolute⟩, c, hc, free, none⟩ := found
  exact ⟨tree, styled, n, hn, box, absolute, c, hc, free, none⟩

end Handoff.Styling
