import Handoff.Proofs.Design.Walk
import Handoff.Proofs.Styling.Position
import Handoff.Proofs.Styling.Role

/-!
# Boxes for absolute children

A node with absolute children should be the box that they are placed in, so it needs a position of
its own.  Parents see to it when they settle their children or stack them; what is left is a stack in
a box that does not place it.

* `StyledNode.Holds`     a node with absolute children has a position;
* `StyledNode.isCrowded`, `settle_eq`   a box that has children to hold, and how it is settled;
* `Loose`                a stack to which its context gives no position;
* `Repositioned`         what parents do to a child: its position stays, or it gets one;
* `placed_styleNode`     the nodes of a styled tree hold their absolute children or are loose;
* `containing_blocks`    which nodes with absolute children have no position.
-/

namespace Handoff

namespace StyledNode

theorem mem_preOrder_self (n : StyledNode) : n ∈ n.preOrder := by
  obtain ⟨d, cs⟩ := n
  exact List.mem_cons_self

/-- a node of a tree is its root, or a child of another one -/
theorem mem_preOrder {root n : StyledNode} :
    n ∈ root.preOrder → n = root ∨ ∃ m ∈ root.preOrder, n ∈ m.children := by
  induction root using forest
    (Q := fun ns => n ∈ preOrderAll ns → n ∈ ns ∨ ∃ m ∈ preOrderAll ns, n ∈ m.children) with
  | node d cs ih =>
    intro h
    rcases List.mem_cons.mp h with rfl | h
    · exact .inl rfl
    · rcases ih h with child | ⟨m, hm, child⟩
      · exact .inr ⟨_, List.mem_cons_self, child⟩
      · exact .inr ⟨m, List.mem_cons_of_mem _ hm, child⟩
  | nil h => cases h
  | cons c cs ih ihs h =>
    rcases List.mem_append.mp h with h | h
    · rcases ih h with rfl | ⟨m, hm, child⟩
      · exact .inl List.mem_cons_self
      · exact .inr ⟨m, List.mem_append_left _ hm, child⟩
    · rcases ihs h with child | ⟨m, hm, child⟩
      · exact .inl (List.mem_cons_of_mem _ child)
      · exact .inr ⟨m, List.mem_append_right _ hm, child⟩

def hasAbsolute (n : StyledNode) : Bool := n.children.any fun c => c.isAbsolute

/-- a node that has children to hold: absolute ones, or any on top of its image -/
def isCrowded (n : StyledNode) : Bool := n.hasAbsolute || (n.image.isSome && !n.children.isEmpty)

/-- a node with absolute children is the box that they are placed in -/
def Holds (n : StyledNode) : Prop := n.hasAbsolute = true → n.isContaining = true

end StyledNode

namespace Styling
open StyledNode

/-- a stack without a position, where `parent` has no bounds to place it in, or lays it out -/
structure Loose (parent : ParentContext) (n : StyledData) : Prop where
  group : n.isGroup = true
  position : position? n.styles = none
  context : parent.bounds = none ∨ parent.isAutoLayout = true ∧ n.source.isAbsolute = false

/-- a node in some context holds its absolute children, or is a loose stack -/
def Placed (parent : ParentContext) (n : StyledNode) : Prop :=
  n.Holds ∨ Loose parent n.toStyledData

/-- everything below a node holds its absolute children, but for loose stacks in boxes -/
def PlacedBelow (root : StyledNode) : Prop :=
  ∀ m ∈ root.preOrder, ∀ c ∈ m.children,
    c.Holds ∨ m.isGroup = false ∧ Loose (.of m.source) c.toStyledData

theorem PlacedBelow.mk {n : StyledNode}
    (children : ∀ c ∈ n.children,
      c.Holds ∨ n.isGroup = false ∧ Loose (.of n.source) c.toStyledData)
    (below : ∀ c ∈ n.children, PlacedBelow c) : PlacedBelow n := by
  obtain ⟨d, cs⟩ := n
  exact forall_preOrder_mk.mpr ⟨children, below⟩

/-- it does not matter here what the node itself looks like -/
theorem PlacedBelow.congr {n n' : StyledNode} (source : n'.source = n.source)
    (children : n'.children = n.children) (below : PlacedBelow n) : PlacedBelow n' := by
  obtain ⟨d, cs⟩ := n
  obtain ⟨d', cs'⟩ := n'
  obtain rfl : cs' = cs := children
  have kind : d'.isGroup = d.isGroup :=
    congrArg (fun d : NodeData => decide (d.kind = .group)) source
  intro m hm
  rcases List.mem_cons.mp hm with rfl | hm
  · intro c hc
    have child := below _ List.mem_cons_self c hc
    rw [← kind] at child
    exact (show d'.source = d.source from source) ▸ child
  · exact below m (List.mem_cons_of_mem _ hm)

/-! ## what parents do to a child -/

/-- a node with a new position, or with the one that it had -/
structure Repositioned (n n' : StyledNode) : Prop where
  source : n'.source = n.source
  children : n'.children = n.children
  position : position? n'.styles = position? n.styles ∨ n'.isContaining = true

namespace Repositioned
variable {n n' n'' : StyledNode}

theorem refl (n : StyledNode) : Repositioned n n := ⟨rfl, rfl, .inl rfl⟩

theorem trans (h : Repositioned n n') (h' : Repositioned n' n'') : Repositioned n n'' where
  source := h'.source.trans h.source
  children := h'.children.trans h.children
  position := by
    rcases h'.position with same | containing
    · rcases h.position with before | containing
      · exact .inl (same.trans before)
      · exact .inr ((isContaining_congr same).trans containing)
    · exact .inr containing

theorem hasAbsolute (h : Repositioned n n') : n'.hasAbsolute = n.hasAbsolute := by
  rw [StyledNode.hasAbsolute, StyledNode.hasAbsolute, h.children]

theorem placed {parent : ParentContext} (h : Repositioned n n') (placed : Placed parent n) :
    Placed parent n' := by
  rcases h.position with same | containing
  · rcases placed with holds | loose
    · left
      intro absolute
      rw [isContaining_congr same]
      exact holds (h.hasAbsolute ▸ absolute)
    · right
      refine ⟨?_, same.trans loose.position, ?_⟩
      · exact (congrArg (fun d : NodeData => decide (d.kind = .group)) h.source).trans loose.group
      · rw [h.source]
        exact loose.context
  · exact .inl fun _ => containing

end Repositioned

theorem repositioned_makeRelative (n : StyledNode) : Repositioned n (makeRelative n) := by
  unfold makeRelative
  split
  · exact .refl n
  · exact ⟨rfl, rfl, .inr (isContaining_of_relative (position?_put n.styles "relative"))⟩

/-- a layer is no position -/
theorem position?_painted (n : StyledNode) (x : Float) :
    position? (n.restyle fun s => s.set "z-index" (.num x)).styles = position? n.styles := by
  show Dict.get? (Dict.set ..) "position" = _
  rw [Dict.get?_set, if_neg (by decide)]
  rfl

theorem repositioned_of_mem_reversePainting {ns : List StyledNode} {n' : StyledNode}
    (h : n' ∈ reversePainting ns) : ∃ n ∈ ns, Repositioned n n' := by
  obtain ⟨⟨n, i⟩, hn, rfl⟩ := List.mem_map.mp h
  exact ⟨n, (List.mem_zipIdx' hn).2 ▸ List.getElem_mem _, rfl, rfl, .inl (position?_painted n _)⟩

theorem repositioned_inlinePatch (group only : NodeData) (parent : ParentContext) (n : StyledNode) :
    Repositioned n (n.restyle (inlinePatch group only parent).apply) := by
  refine ⟨rfl, rfl, ?_⟩
  have position := position?_inlinePatch group only parent n.styles
  cases absolute : group.isAbsolute with
  | false =>
    rw [absolute, if_neg Bool.false_ne_true] at position
    exact .inl position
  | true =>
    rw [absolute, if_pos rfl] at position
    exact .inr (isContaining_of_isAbsolute (isAbsolute_of_absolute position))

/-! ## boxes -/

theorem isAbsolute_makeRelative (n : StyledNode) : (makeRelative n).isAbsolute = n.isAbsolute := by
  unfold makeRelative
  split
  · rfl
  · next free => exact (isAbsolute_of_relative (position?_put ..)).trans (by simpa using free)

theorem isAbsolute_reversePainting (ns : List StyledNode) :
    (reversePainting ns).any (fun c => c.isAbsolute) = ns.any fun c => c.isAbsolute := by
  have painted (n : StyledNode) (i : Float) :
      (n.restyle fun s => s.set "z-index" (.num i)).isAbsolute = n.isAbsolute :=
    isAbsolute_congr (position?_painted n i)
  unfold reversePainting
  dsimp only
  rw [List.any_map]
  simp only [Function.comp_def, painted]
  show ns.zipIdx.any ((fun c : StyledNode => c.isAbsolute) ∘ Prod.fst) = _
  rw [← List.any_map, List.zipIdx_map_fst]

theorem isEmpty_reversePainting (ns : List StyledNode) :
    (reversePainting ns).isEmpty = ns.isEmpty := by
  rw [reversePainting, List.isEmpty_map, Bool.eq_iff_iff, List.isEmpty_iff, List.isEmpty_iff,
    List.zipIdx_eq_nil_iff]

/-- a box is settled around its children, in the order of their painting or not: it gets a position
and so do they if it has some of them to hold and no position yet -/
theorem settle_eq (n : StyledNode) :
    ∃ ns, (ns = n.children ∨ ns = reversePainting n.children) ∧
      settle n = if n.isCrowded && !n.isAbsolute then
          { n with
            styles := n.styles.put "position" "relative"
            children := ns.map makeRelative }
        else { n with children := ns } := by
  have crowded {ns : List StyledNode} (order : ns = n.children ∨ ns = reversePainting n.children) :
      (ns.any (fun c => c.isAbsolute) || (n.image.isSome && !ns.isEmpty)) = n.isCrowded := by
    rcases order with rfl | rfl
    · rfl
    · rw [isAbsolute_reversePainting, isEmpty_reversePainting]
      rfl
  unfold settle
  dsimp only
  generalize (Option.getD _ false && decide (1 < n.children.length)) = reversed
  generalize painted :
    (if reversed = true then reversePainting n.children else n.children) = ns
  have order : ns = n.children ∨ ns = reversePainting n.children := by
    cases reversed with
    | true => exact .inr painted.symm
    | false => exact .inl painted.symm
  exact ⟨ns, order, by rw [crowded order]⟩

/-- a box that is settled gets a position, or it has no absolute children to hold, or a position -/
theorem settle_cases (n : StyledNode) :
    ∃ ns, (ns = n.children ∨ ns = reversePainting n.children) ∧
      (settle n = { n with
          styles := n.styles.put "position" "relative"
          children := ns.map makeRelative } ∨
        settle n = { n with children := ns } ∧
          (ns.any (fun c => c.isAbsolute) = true → n.isAbsolute = true)) := by
  obtain ⟨ns, order, settled⟩ := settle_eq n
  refine ⟨ns, order, ?_⟩
  split at settled
  · exact .inl settled
  · next none =>
    refine .inr ⟨settled, fun absolute => ?_⟩
    have crowded : n.isCrowded = true := by
      rw [StyledNode.isCrowded, StyledNode.hasAbsolute]
      rcases order with rfl | rfl
      · rw [absolute, Bool.true_or]
      · rw [← isAbsolute_reversePainting, absolute, Bool.true_or]
    rw [crowded, Bool.true_and] at none
    simpa using none

theorem repositioned_of_mem_settle {n c' : StyledNode} (h : c' ∈ (settle n).children) :
    ∃ c ∈ n.children, Repositioned c c' := by
  obtain ⟨ns, painted, settled⟩ := settle_cases n
  have before {c' : StyledNode} (h : c' ∈ ns) : ∃ c ∈ n.children, Repositioned c c' := by
    rcases painted with rfl | rfl
    · exact ⟨c', h, .refl c'⟩
    · exact repositioned_of_mem_reversePainting h
  rcases settled with e | ⟨e, -⟩
  · rw [e] at h
    obtain ⟨c'', hc, rfl⟩ := List.mem_map.mp h
    obtain ⟨c, hc, position⟩ := before hc
    exact ⟨c, hc, position.trans (repositioned_makeRelative c'')⟩
  · rw [e] at h
    exact before h

/-- settling a box makes no child absolute, and frees none -/
theorem hasAbsolute_settle (n : StyledNode) : (settle n).hasAbsolute = n.hasAbsolute := by
  obtain ⟨ns, painted, settled⟩ := settle_cases n
  have before : (ns.any fun c => c.isAbsolute) = n.hasAbsolute := by
    rcases painted with rfl | rfl
    · rfl
    · exact isAbsolute_reversePainting n.children
  rcases settled with e | ⟨e, -⟩
  · rw [e]
    show ((ns.map makeRelative).any fun c => c.isAbsolute) = _
    rw [List.any_map]
    simp only [Function.comp_def, isAbsolute_makeRelative]
    exact before
  · rw [e]
    exact before

theorem isAbsolute_settle (n : StyledNode) : (settle n).isAbsolute = n.isAbsolute := by
  obtain ⟨ns, -, settled⟩ := settle_eq n
  rw [settled]
  split
  · next open' =>
    have free : n.isAbsolute = false := by simpa using (Bool.and_eq_true_iff.mp open').2
    exact (isAbsolute_of_relative (position?_put n.styles "relative")).trans free.symm
  · rfl

/-- a box that is settled changes no more than its position -/
theorem get?_settle (n : StyledNode) {key : String} (other : key ≠ "position") :
    (settle n).styles.get? key = n.styles.get? key := by
  obtain ⟨ns, -, settled⟩ := settle_eq n
  rw [settled]
  split
  · show Dict.get? (Dict.set ..) key = _
    rw [Dict.get?_set, if_neg other]
  · rfl

theorem source_settle (n : StyledNode) : (settle n).source = n.source := by
  obtain ⟨ns, -, e | ⟨e, -⟩⟩ := settle_cases n <;> rw [e]

theorem holds_settle (n : StyledNode) : (settle n).Holds := by
  obtain ⟨ns, -, e | ⟨e, own⟩⟩ := settle_cases n
  · rw [e]
    exact fun _ => isContaining_of_relative (position?_put n.styles "relative")
  · rw [e]
    exact fun absolute => isContaining_of_isAbsolute (own absolute)

/-! ## stacks -/

theorem holds_contain (n : StyledNode) : (contain n).Holds := by
  unfold contain
  split
  · intro _
    exact isContaining_of_relative (position?_put n.styles "relative")
  · next open' =>
    intro absolute
    have absolute : (n.children.any fun c => c.isAbsolute) = true := absolute
    rw [absolute, Bool.and_true] at open'
    exact isContaining_of_isAbsolute (by simpa using open')

theorem isAbsolute_contain (n : StyledNode) : (contain n).isAbsolute = n.isAbsolute := by
  unfold contain
  split
  · next h =>
    have free : n.isAbsolute = false := by simpa using (Bool.and_eq_true_iff.mp h).1
    exact (isAbsolute_of_relative (position?_put ..)).trans free.symm
  · rfl

theorem source_contain (n : StyledNode) : (contain n).source = n.source := by
  unfold contain
  split <;> rfl

theorem children_contain (n : StyledNode) : (contain n).children = n.children := by
  unfold contain
  split <;> rfl

section
variable (group : NodeData) (mask : Option String) (source : NodeData) (n : StyledNode)

theorem source_onStack : (onStack group mask source n).source = n.source := source_contain _

theorem children_onStack : (onStack group mask source n).children = n.children :=
  children_contain _

/-- the absolute children of a stack are those that are pinned to its sides -/
theorem isAbsolute_onStack : (onStack group mask source n).isAbsolute
    = (isPinned source && source.bounds.isSome && group.bounds.isSome) := by
  unfold onStack
  rw [isAbsolute_contain]
  have position := position?_cellPatch source group.bounds n.styles
  split at position
  · next pinned => exact (isAbsolute_of_absolute position).trans pinned.symm
  · next free => exact (isAbsolute_of_none position).trans (by simpa using free)

end

theorem placed_stack {parent : ParentContext} {r : Float} {group : NodeData} {mask : Option String}
    {name : String} {children : List (NodeData × StyledNode)} {tree : StyledNode}
    (kind : group.kind = .group) (h : stack? parent r group mask name children = some tree) :
    Placed parent tree := by
  obtain rfl := eq_of_stack? h
  have isGroup : (decide (group.kind = .group)) = true := decide_eq_true kind
  have position := position?_stackStyles group parent
  cases placed : stackIsPlaced group parent with
  | true =>
    rw [placed, if_pos rfl] at position
    exact .inl fun _ => isContaining_of_isAbsolute (isAbsolute_of_absolute position)
  | false =>
    rw [placed, if_neg Bool.false_ne_true] at position
    by_cases absolute : (children.map fun c => onStack group mask c.1 c.2).any
        (fun c => c.isAbsolute) = true
    · -- an absolute child is pinned to the bounds of the stack
      obtain ⟨c', hc, pinned⟩ := List.any_eq_true.mp absolute
      obtain ⟨c, -, rfl⟩ := List.mem_map.mp hc
      rw [isAbsolute_onStack, Bool.and_eq_true] at pinned
      refine .inr ⟨isGroup, position, ?_⟩
      rw [stackIsPlaced, pinned.2, Bool.true_and] at placed
      cases bounds : parent.bounds with
      | none => exact .inl rfl
      | some b =>
        rw [bounds, Option.isSome_some, Bool.true_and, Bool.or_eq_false_iff] at placed
        exact .inr ⟨by simpa using placed.1, placed.2⟩
    · exact .inl fun some => absurd some absolute

theorem placedBelow_stack {parent : ParentContext} {r : Float} {group : NodeData}
    {mask : Option String} {name : String} {children : List (NodeData × StyledNode)}
    {tree : StyledNode} (h : stack? parent r group mask name children = some tree)
    (below : ∀ c ∈ children, PlacedBelow c.2) : PlacedBelow tree := by
  obtain rfl := eq_of_stack? h
  refine .mk (fun c' hc' => ?_) fun c' hc' => ?_
  · obtain ⟨c, -, rfl⟩ := List.mem_map.mp hc'
    exact .inl (holds_contain _)
  · obtain ⟨c, hc, rfl⟩ := List.mem_map.mp hc'
    exact (below c hc).congr (source_onStack ..) (children_onStack ..)

theorem placedBelow_settle {d : StyledData} {children : List StyledNode}
    (noGroup : d.source.kind ≠ .group) (placed : ∀ c ∈ children, Placed (.of d.source) c)
    (below : ∀ c ∈ children, PlacedBelow c) : PlacedBelow (settle ⟨d, children⟩) := by
  have source : (settle ⟨d, children⟩).source = d.source := source_settle _
  have kind : (settle ⟨d, children⟩).isGroup = false := by
    rw [StyledData.isGroup, StyledData.kind, source]
    exact decide_eq_false noGroup
  refine .mk (fun c' hc' => ?_) fun c' hc' => ?_
  · obtain ⟨c, hc, position⟩ := repositioned_of_mem_settle hc'
    rw [kind, source]
    exact (position.placed (placed c hc)).imp_right fun loose => ⟨rfl, loose⟩
  · obtain ⟨c, hc, position⟩ := repositioned_of_mem_settle hc'
    exact (below c hc).congr position.source position.children

/-! ## styled trees -/

/-- the nodes of a styled tree hold their absolute children, but for loose stacks -/
theorem placed_styleNode (p : Policy) (n : DesignNode) : ∀ parent r names,
    ∀ tree ∈ (styleNode p parent r n names).1, Placed parent tree ∧ PlacedBelow tree := by
  induction n using DesignNode.byChildren with
  | node d cs ih =>
    intro parent r names tree h
    have below {masked : Bool} {parent : ParentContext} {r : Float} {names : NameRegistry} :
        ∀ c ∈ (styleAll p parent r masked cs names).1, Placed parent c.2 ∧ PlacedBelow c.2 := by
      intro c hc
      obtain ⟨n, hn, names', styled⟩ := mem_styleAll hc
      exact ih n hn _ _ _ c.2 styled
    cases Role.of p d cs with
    | dropped hidden => rw [styleNode_dropped hidden] at h; cases h
    | emptyGroup kept group children =>
      rw [styleNode_emptyGroup kept group children] at h
      cases h
    | wrapper kept group only children =>
      rw [styleNode_wrapper kept group children] at h
      obtain ⟨c, first, rfl⟩ := Option.map_eq_some_iff.mp h
      obtain ⟨placed, placedBelow⟩ := below c (List.mem_of_head? first)
      have patched := repositioned_inlinePatch d only parent c.2
      exact ⟨patched.placed placed, placedBelow.congr patched.source patched.children⟩
    | stack kept group first second rest children =>
      rw [styleNode_stack kept group children] at h
      exact ⟨placed_stack group h, placedBelow_stack h fun c hc => (below c hc).2⟩
    | drawing kept vector =>
      rw [styleNode_drawing kept vector] at h
      obtain rfl := Option.some.inj h
      refine ⟨.inl fun absolute => ?_, .mk ?_ ?_⟩
      · cases absolute
      · exact List.forall_mem_nil _
      · exact List.forall_mem_nil _
    | box kept noGroup noVector =>
      rw [styleNode_box kept noGroup noVector] at h
      obtain rfl := Option.some.inj h
      refine ⟨.inl (holds_settle _), placedBelow_settle noGroup ?_ ?_⟩
      · exact List.forall_mem_map.mpr fun c hc => (below c hc).1
      · exact List.forall_mem_map.mpr fun c hc => (below c hc).2

/-- a box around one node that is not absolute stays as it is, unless it shows an image -/
theorem settle_alone {d : StyledData} {c : StyledNode} (free : c.isAbsolute = false)
    (image : d.image = none) : settle ⟨d, [c]⟩ = ⟨d, [c]⟩ := by
  unfold settle
  simp [free, image]

/-- a box around a stack of two boxes -/
theorem styleNode_stackInBox (p : Policy) (parent : ParentContext) (r : Float)
    (box stack a b : NodeData) (names : NameRegistry)
    (kept : ∀ d ∈ [box, stack, a, b], p.keeps d = true) (group : stack.kind = .group)
    (boxes : ∀ d ∈ [box, a, b], d.kind ≠ .group ∧ d.kind.isVector = false)
    (masks : a.isMask = false ∧ b.isMask = false) :
    ∃ (data : StyledData) (held first second : StyledNode),
      (styleNode p parent r ⟨box, [⟨stack, [⟨a, []⟩, ⟨b, []⟩]⟩]⟩ names).1
        = some (settle ⟨data, [held]⟩) ∧
      data.source = box ∧ data.image = topImage? box ∧
      held.styles = stackStyles stack (.of box) ∧
      held.children = [onStack stack none a first, onStack stack none b second] := by
  simp only [List.forall_mem_cons] at kept boxes
  obtain ⟨keptBox, keptStack, keptA, keptB, -⟩ := kept
  obtain ⟨boxBox, boxA, boxB, -⟩ := boxes
  have children : keptData p [⟨a, []⟩, ⟨b, []⟩] = [a, b] := by
    rw [keptData_cons, if_pos keptA, keptData_cons, if_pos keptB]
    rfl
  have mask : maskImage? a = none := by rw [maskImage?, masks.1]; rfl
  have unmasked {masked : Bool} {d : NodeData} (h : d.isMask = false) (cs : List DesignNode) :
      (masked && p.keeps d && (DesignNode.mk d cs).isMask) = false := by
    rw [show (DesignNode.mk d cs).isMask = false from h, Bool.and_false]
  have pair (parent : ParentContext) (r : Float) (names : NameRegistry) : ∃ first second,
      (styleAll p parent r true [⟨a, []⟩, ⟨b, []⟩] names).1 = [(a, first), (b, second)] := by
    rw [styleAll_cons (unmasked masks.1 _)]
    dsimp only
    rw [styleAll_cons (unmasked masks.2 _)]
    dsimp only
    rw [styleNode_box keptA boxA.1 boxA.2, styleNode_box keptB boxB.1 boxB.2]
    exact ⟨_, _, rfl⟩
  rw [styleNode_box keptBox boxBox.1 boxBox.2]
  dsimp only
  rw [styleAll_cons (by rfl), styleNode_stack keptStack group children, mask]
  dsimp only
  obtain ⟨first, second, both⟩ := pair (stackContext stack (.of box))
    (r + box.rotationDegrees + stack.rotationDegrees) ((names.issue box.name).2.issue stack.name).2
  rw [both]
  exact ⟨_, _, first, second, rfl, rfl, rfl, rfl, rfl⟩

/-- **Which nodes with absolute children have no position.**  In the styled tree of a design, a node
with an absolute child is itself absolute or relative, unless it is a stack that was given no
position.  Such a stack is the root, or it lies in a box, no stack, that has no bounds to place it
in, or that lays it out. -/
theorem containing_blocks (s : Session) (design : DesignNode) {tree : StyledNode}
    (h : (s.style design).1 = some tree) {n : StyledNode} (hn : n ∈ tree.preOrder)
    (absolute : n.hasAbsolute = true) :
    (n.isContaining = false ↔ n.isGroup = true ∧ position? n.styles = none) ∧
      (n.isContaining = false → n = tree ∨ ∃ m ∈ tree.preOrder, n ∈ m.children ∧
        m.isGroup = false ∧ (m.source.bounds = none ∨
          (ParentContext.of m.source).isAutoLayout = true ∧ n.source.isAbsolute = false)) := by
  obtain ⟨placed, below⟩ := placed_styleNode s.policy design {} 0.0 s.names tree h
  -- a node that holds its children has a position, so a node without one is loose
  have loose (open' : n.isContaining = false) : Loose {} n.toStyledData ∧ n = tree ∨
      ∃ m ∈ tree.preOrder, n ∈ m.children ∧ m.isGroup = false ∧
        Loose (.of m.source) n.toStyledData := by
    have shut : ¬ n.Holds := fun holds => by
      rw [holds absolute] at open'
      cases open'
    rcases mem_preOrder hn with rfl | ⟨m, hm, child⟩
    · exact .inl ⟨placed.resolve_left shut, rfl⟩
    · obtain ⟨noGroup, loose⟩ := (below m hm n child).resolve_left shut
      exact .inr ⟨m, hm, child, noGroup, loose⟩
  refine ⟨⟨fun open' => ?_, fun none => isContaining_of_none none.2⟩, fun open' => ?_⟩
  · rcases loose open' with ⟨loose, -⟩ | ⟨m, -, -, -, loose⟩ <;>
      exact ⟨loose.group, loose.position⟩
  · rcases loose open' with ⟨-, root⟩ | ⟨m, hm, child, noGroup, loose⟩
    · exact .inl root
    · exact .inr ⟨m, hm, child, noGroup, loose.context⟩

/-- a frame with a stack in it, which it does not lay out: the stack is absolute, and the frame has a
position -/
theorem containing_blocks_card :
    let bounds : Rect := ⟨0.0, 0.0, 100.0, 100.0⟩
    let boxNamed : String → String → DesignNode := fun id name =>
      ⟨{ id, name, kind := .rectangle, payload := .shape {} {} {} }, []⟩
    let stack : DesignNode := ⟨{ id := "2", name := "Stack", kind := .group, bounds := some bounds },
      [boxNamed "3" "Back", boxNamed "4" "Front"]⟩
    let card : DesignNode := ⟨{
      id := "1", name := "Card", kind := .frame, bounds := some bounds
      payload := .container {} }, [stack]⟩
    ∃ tree, (({} : Session).style card).1 = some tree ∧ tree ∈ tree.preOrder ∧
      tree.hasAbsolute = true ∧ tree.isContaining = true := by
  intro bounds boxNamed stack card
  obtain ⟨data, held, first, second, styled, source, -, styles, -⟩ := styleNode_stackInBox {} {}
    0.0 card.toNodeData stack.toNodeData (boxNamed "3" "Back").toNodeData
    (boxNamed "4" "Front").toNodeData ∅ (by decide) rfl (by decide) ⟨rfl, rfl⟩
  have position : position? held.styles = some (.text "absolute") := by
    rw [styles]
    exact position?_stackStyles stack.toNodeData (.of card.toNodeData)
  have self : ∀ n : StyledNode, n ∈ n.preOrder := fun ⟨_, _⟩ => List.mem_cons_self
  have absolute : (settle ⟨data, [held]⟩).hasAbsolute = true := by
    rw [hasAbsolute_settle]
    exact List.any_eq_true.mpr ⟨held, List.mem_cons_self, isAbsolute_of_absolute position⟩
  refine ⟨_, styled, self _, absolute, ?_⟩
  obtain ⟨reason, -⟩ := containing_blocks {} card styled (self _) absolute
  refine (Bool.not_eq_false _).mp fun open' => ?_
  have group := (reason.mp open').1
  rw [StyledData.isGroup, StyledData.kind, source_settle] at group
  exact absurd (source ▸ group) (by decide)

/-- a stack in a row holds a badge that is pinned to its right, and has no position -/
theorem stack_without_position :
    let box : Rect := ⟨0.0, 0.0, 100.0, 100.0⟩
    let back : DesignNode := ⟨{
      id := "3", name := "Back", kind := .rectangle, bounds := some box
      payload := .shape {} {} {} }, []⟩
    let badge : DesignNode := ⟨{
      id := "4", name := "Badge", kind := .rectangle, bounds := some ⟨90.0, 0.0, 10.0, 10.0⟩
      constraints := some ⟨.max, .min⟩, payload := .shape {} {} {} }, []⟩
    let stack : DesignNode :=
      ⟨{ id := "2", name := "Stack", kind := .group, bounds := some box }, [back, badge]⟩
    let row : DesignNode := ⟨{
      id := "1", name := "Row", kind := .frame, bounds := some box
      payload := .container { layout := { mode := .horizontal } } }, [stack]⟩
    ∃ tree, (({} : Session).style row).1 = some tree ∧
      ∃ n ∈ tree.preOrder, n.hasAbsolute = true ∧ n.isContaining = false := by
  intro box back badge stack row
  obtain ⟨data, held, first, second, styled, -, image, styles, children⟩ := styleNode_stackInBox
    {} {} 0.0 row.toNodeData stack.toNodeData back.toNodeData badge.toNodeData ∅ (by decide) rfl (by decide) ⟨rfl, rfl⟩
  have position : position? held.styles = none := by
    rw [styles]
    exact position?_stackStyles stack.toNodeData (.of row.toNodeData)
  have pinned : (onStack stack.toNodeData none badge.toNodeData second).isAbsolute = true :=
    isAbsolute_onStack ..
  rw [settle_alone (isAbsolute_of_none position) image] at styled
  have self : ∀ n : StyledNode, n ∈ n.preOrder := fun ⟨_, _⟩ => List.mem_cons_self
  refine ⟨_, styled, held, ?_, ?_, isContaining_of_none position⟩
  · exact List.mem_cons_of_mem _ (List.mem_append_left _ (self held))
  · rw [StyledNode.hasAbsolute, children]
    exact List.any_eq_true.mpr ⟨_, List.mem_cons_of_mem _ List.mem_cons_self, pinned⟩

end Styling
end Handoff
