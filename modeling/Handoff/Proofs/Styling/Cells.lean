import Handoff.Proofs.Styling.Bare
import Handoff.Proofs.Styling.Containing
import Handoff.Proofs.Styling.Declarations

/-!
# The nodes of styled trees

All that a node of a styled tree says, but for its styles and its mask, is made of its own design
node.  Its styles declare what any context can declare; only the children of stacks have a cell of a
grid and the margins that go with it.

* `Faithful`, `Made`    a node that says what its design node says, and nothing else;
* `EachChild`           what holds of every child in a tree, beside its parent;
* `eachChild_styleNode`  it is enough to look at roots, and once more at what is stacked or settled;
* `Celled`              the styles of a child of a stack;
* `made_styleNode`, `declared_styleNode`   the nodes of a styled tree are like this.
-/

namespace Handoff

namespace StyledNode

/-- what holds of every child in a tree, beside the design node of its parent -/
def EachChild (R : NodeData → StyledNode → Prop) (root : StyledNode) : Prop :=
  ∀ m ∈ root.preOrder, ∀ c ∈ m.children, R m.source c

variable {R : NodeData → StyledNode → Prop} {n n' : StyledNode}

theorem EachChild.mk (children : ∀ c ∈ n.children, R n.source c)
    (below : ∀ c ∈ n.children, c.EachChild R) : n.EachChild R := by
  obtain ⟨d, cs⟩ := n
  exact forall_preOrder_mk.mpr ⟨children, below⟩

theorem EachChild.below (h : n.EachChild R) : ∀ c ∈ n.children, c.EachChild R := by
  obtain ⟨d, cs⟩ := n
  exact (forall_preOrder_mk.mp h).2

theorem EachChild.children (h : n.EachChild R) : ∀ c ∈ n.children, R n.source c := by
  obtain ⟨d, cs⟩ := n
  exact h _ List.mem_cons_self

theorem EachChild.congr (source : n'.source = n.source) (children : n'.children = n.children)
    (h : n.EachChild R) : n'.EachChild R :=
  .mk (by rw [children, source]; exact h.children) (by rw [children]; exact h.below)

end StyledNode

namespace Styling
open StyledNode

/-! ## trees by their roots and by their children -/

/-- where a property of the roots of styled trees in a context goes on to hold for each role, it is
enough to look at a child once more when its parent stacks or settles it: what then holds of it holds
of every child in a styled tree -/
theorem eachChild_styleNode (p : Policy) {O : ParentContext → StyledNode → Prop}
    {R : NodeData → StyledNode → Prop}
    (wrapper : ∀ parent d only c, O parent c →
      O parent (c.restyle (inlinePatch d only parent).apply))
    (stack : ∀ parent r d mask name children, d.kind = .group →
      ∀ tree ∈ stack? parent r d mask name children, O parent tree)
    (drawing : ∀ parent r d hasChildren name, d.kind.isVector = true →
      O parent ⟨nodeData p parent r d hasChildren name, []⟩)
    (box : ∀ parent r d hasChildren name children, d.kind ≠ .group →
      (∀ c ∈ children, O (.of d) c) →
      O parent (settle ⟨nodeData p parent r d hasChildren name, children⟩))
    (stacked : ∀ parent d mask source c, d.kind = .group → O (stackContext d parent) c →
      R d (onStack d mask source c))
    (settled : ∀ d children, d.source.kind ≠ .group → (∀ c ∈ children, O (.of d.source) c) →
      ∀ c' ∈ (settle ⟨d, children⟩).children, R d.source c')
    (n : DesignNode) (parent : ParentContext) (r : Float) (names : NameRegistry) :
    ∀ tree ∈ (styleNode p parent r n names).1, O parent tree ∧ tree.EachChild R := by
  refine forall_styleNode p (D := fun _ => True) (P := fun parent tree => O parent tree ∧
    tree.EachChild R) ?wrapper ?stack ?drawing ?box n (fun _ _ => trivial) parent r names
  case wrapper =>
    exact fun parent d only c _ _ h => ⟨wrapper parent d only c h.1,
      h.2.congr (show (c.restyle _).source = c.source from rfl) rfl⟩
  case stack =>
    intro parent r d mask name children _ group below tree h
    refine ⟨stack parent r d mask name children group tree h, ?_⟩
    obtain rfl := eq_of_stack? h
    refine .mk (fun c' hc' => ?_) fun c' hc' => ?_
    · obtain ⟨c, hc, rfl⟩ := List.mem_map.mp hc'
      exact stacked parent d mask c.1 c.2 group (below c hc).1
    · obtain ⟨c, hc, rfl⟩ := List.mem_map.mp hc'
      exact (below c hc).2.congr (source_onStack ..) (children_onStack ..)
  case drawing =>
    exact fun parent r d hasChildren name _ vector =>
      ⟨drawing parent r d hasChildren name vector,
        .mk (List.forall_mem_nil _) (List.forall_mem_nil _)⟩
  case box =>
    intro parent r d hasChildren name children _ noGroup _ below
    refine ⟨box parent r d hasChildren name children noGroup fun c hc => (below c hc).1,
      .mk (fun c' hc' => ?_) fun c' hc' => ?_⟩
    · rw [source_settle]
      exact settled (nodeData p parent r d hasChildren name) children noGroup
        (fun c hc => (below c hc).1) c' hc'
    · obtain ⟨c, hc, position⟩ := repositioned_of_mem_settle hc'
      exact (below c hc).2.congr position.source position.children

/-! ## data -/

/-- a node that says what its design node says; a stack says nothing of its group -/
structure Faithful (n : StyledData) : Prop where
  fills : n.fills = if n.isGroup then [] else fillLayers n.source
  overlap : n.overlap = if n.isGroup then none else overlap? n.source

/-- a node that says nothing else, as long as no overlay is put on it -/
structure Made (n : StyledData) : Prop extends Faithful n where
  responsive : n.responsive = none
  presence : n.presence = none

/-- nothing else matters but what the surroundings of a node do not change -/
theorem made_bare {n : StyledData} : Made n.bare ↔ Made n :=
  ⟨fun h => ⟨⟨h.fills, h.overlap⟩, h.responsive, h.presence⟩,
    fun h => ⟨⟨h.fills, h.overlap⟩, h.responsive, h.presence⟩⟩

def AllMade (root : StyledNode) : Prop := ∀ m ∈ root.preOrder, Made m.toStyledData

theorem made_nodeData (p : Policy) (parent : ParentContext) (r : Float) {d : NodeData}
    (hasChildren : Bool) (name : String) (noGroup : d.kind ≠ .group) :
    Made (nodeData p parent r d hasChildren name) := by
  have free : (nodeData p parent r d hasChildren name).isGroup = false := decide_eq_false noGroup
  exact ⟨⟨by rw [free]; rfl, by rw [free]; rfl⟩, rfl, rfl⟩

/-- **The nodes of a styled tree say what their design nodes say.** -/
theorem made_styleNode (p : Policy) (n : DesignNode) (parent : ParentContext) (r : Float)
    (names : NameRegistry) : ∀ tree ∈ (styleNode p parent r n names).1, AllMade tree := by
  refine forall_preOrder_styleNode p (D := fun _ => True) (fun m => ?bare) ?stack ?node n
    (fun _ _ => trivial) parent r names
  case bare =>
    obtain ⟨d, cs⟩ := m
    exact made_bare
  case stack =>
    intro parent r d name children _ group
    have isGroup : (decide (d.kind = .group)) = true := decide_eq_true group
    exact ⟨⟨(if_pos isGroup).symm, (if_pos isGroup).symm⟩, rfl, rfl⟩
  case node =>
    exact fun parent r d hasChildren name _ _ noGroup _ =>
      made_nodeData p parent r hasChildren name noGroup

/-! ## styles -/

/-- what a node on a stack declares besides -/
inductive Cell : Declaration → Prop
  | area : Cell (declare "grid-area" "1 / 1")
  | margin {key : String} (h : key ∈ ["margin-left", "margin-top"]) (x : Float) :
      Cell (declare key (px x))

/-- the styles of a child of a stack: it has a cell unless it has a position, and it has one if it
is pinned or has to hold absolute children -/
structure Celled (c : StyledNode) : Prop where
  declared : c.styles.Each fun d => Declared c.source d ∨ Cell d
  area : position? c.styles = none → c.styles.contains "grid-area" = true
  containing : c.isContaining = (c.isAbsolute || c.hasAbsolute)

/-- what a child declares beside its parent -/
def Beside (m : NodeData) (c : StyledNode) : Prop :=
  (m.kind = .group → Celled c) ∧ (m.kind ≠ .group → c.styles.Each (Declared c.source))

/-- a styled tree that declares what it can declare in any context -/
structure Plain (n : StyledNode) : Prop where
  declared : n.styles.Each (Declared n.source)
  below : n.EachChild Beside

theorem declared_groupOpacity (group n : NodeData) : ∀ d ∈ groupOpacity group, Declared n d :=
  (keyed_groupOpacity group).declared (by decide) n

theorem declared_inlinePatch (group only : NodeData) (parent : ParentContext) (n : NodeData) :
    ∀ d ∈ (inlinePatch group only parent).assignments, Declared n d := by
  have place := (keyed_groupPlace group only parent).declared (by decide) n
  intro d hd
  rcases StylePatch.mem_assignments_setAll hd with hd | hd
  · cases hd
  · rcases List.mem_append.mp hd with hd | hd
    · split at hd
      · rcases List.mem_cons.mp hd with rfl | hd
        · exact .absolute
        · exact place d hd
      · cases hd
    · exact declared_groupOpacity group n d hd

theorem each_stackStyles (group : NodeData) (parent : ParentContext) (n : NodeData) :
    (stackStyles group parent).Each (Declared n) := by
  have position : ∀ d ∈ stackPosition group parent, Declared n d := by
    unfold stackPosition
    split
    · split
      · refine List.forall_mem_append.mpr ⟨List.forall_mem_cons.mpr ⟨.absolute, ?_⟩,
          Keyed.declared mem_offsetKeys (by decide) n⟩
        exact Keyed.declared (keyed_cons (by decide) (keyed_cons (by decide) keyed_nil))
          (by decide : sizeKeys ⊆ plainKeys) n
      · exact List.forall_mem_nil _
    · exact List.forall_mem_nil _
  exact Styles.each_empty.write (List.forall_mem_append.mpr ⟨List.forall_mem_append.mpr
    ⟨keyed_stackGrid.declared (by decide) n, position⟩, declared_groupOpacity group n⟩)

/-! ## children -/

/-- a child of a box, as its parent settles it -/
theorem declared_of_mem_settle {n c' : StyledNode} (h : c' ∈ (settle n).children)
    (plain : ∀ c ∈ n.children, c.styles.Each (Declared c.source)) :
    c'.styles.Each (Declared c'.source) := by
  have painted : ∀ c ∈ reversePainting n.children, c.styles.Each (Declared c.source) := by
    intro c' hc'
    obtain ⟨⟨c, i⟩, hc, rfl⟩ := List.mem_map.mp hc'
    have mem : c ∈ n.children := (List.mem_zipIdx' hc).2 ▸ List.getElem_mem _
    exact (plain c mem).set (.layer _)
  have related (c : StyledNode) (h : c.styles.Each (Declared c.source)) :
      (makeRelative c).styles.Each (Declared (makeRelative c).source) := by
    unfold makeRelative
    split
    · exact h
    · exact h.set .relative
  obtain ⟨ns, order, settled⟩ := settle_cases n
  have before : ∀ c ∈ ns, c.styles.Each (Declared c.source) := by
    rcases order with rfl | rfl
    · exact plain
    · exact painted
  rcases settled with e | ⟨e, -⟩
  · rw [e] at h
    obtain ⟨c, hc, rfl⟩ := List.mem_map.mp h
    exact related c (before c hc)
  · rw [e] at h
    exact before c' h

theorem declared_settle {n : StyledNode} (h : n.styles.Each (Declared n.source)) :
    (settle n).styles.Each (Declared (settle n).source) := by
  rw [source_settle]
  obtain ⟨ns, -, e | ⟨e, -⟩⟩ := settle_cases n
  · rw [e]
    exact h.set .relative
  · rw [e]
    exact h

/-- a cell, or a place at a side of the stack -/
theorem declared_cellPatch (child : NodeData) (group : Option Rect) (n : NodeData) :
    ∀ d ∈ (cellPatch child group).assignments, Declared n d ∨ Cell d := by
  have assigned {ks : List String} {ds : List Declaration} {d : Declaration}
      (h : d ∈ ((StylePatch.removeAll ∅ ks).setAll ds).assignments) : d ∈ ds := by
    refine (StylePatch.mem_assignments_setAll h).resolve_left fun h => ?_
    rw [StylePatch.assignments_removeAll] at h
    cases h
  have margins (bounds group : Rect) : ∀ d ∈ cellMargins bounds group, Cell d := by
    have one {key : String} (h : key ∈ ["margin-left", "margin-top"]) (x : Float) :
        ∀ d ∈ positiveMargin key x, Cell d := by
      unfold positiveMargin declareIf
      split
      · exact List.forall_mem_singleton.mpr (.margin h x)
      · exact List.forall_mem_nil _
    exact List.forall_mem_append.mpr ⟨one (by decide) _, one (by decide) _⟩
  have cell {ms : List Declaration} (h : ∀ d ∈ ms, Cell d) :
      ∀ d ∈ declare "grid-area" "1 / 1" :: ms, Declared n d ∨ Cell d :=
    fun d hd => .inr (List.forall_mem_cons.mpr ⟨.area, h⟩ d hd)
  intro d hd
  unfold cellPatch at hd
  dsimp only at hd
  split at hd
  · split at hd
    · rcases List.mem_cons.mp (assigned hd) with rfl | hd
      · exact .inl .absolute
      · exact .inl (Keyed.declared mem_offsetKeys (by decide) n d hd)
    · exact cell (margins _ _) d (assigned hd)
  · exact cell (List.forall_mem_nil _) d (assigned hd)

/-- a child that is not pinned to a side of the stack has a cell -/
theorem area_cellPatch {child : NodeData} {group : Option Rect}
    (free : (isPinned child && child.bounds.isSome && group.isSome) = false) (s : Styles) :
    ((cellPatch child group).apply s).contains "grid-area" = true := by
  rcases cellPatch_cases child group with ⟨pinned, -⟩ | ⟨-, ds, keyed, e⟩
  · rw [pinned] at free
    cases free
  · rw [e, Dict.contains, keyed.get?_apply_first (by decide), Option.isSome_some]

theorem celled_contain {n : StyledNode}
    (declared : n.styles.Each fun d => Declared n.source d ∨ Cell d) (position : position? n.styles = some (.text "absolute") ∨
      position? n.styles = none ∧ n.styles.contains "grid-area" = true) : Celled (contain n) := by
  unfold contain
  split
  · next open' =>
    obtain ⟨free, held⟩ := Bool.and_eq_true_iff.mp open'
    have relative := position?_put n.styles "relative"
    refine ⟨declared.set (.inl .relative), fun none => ?_, ?_⟩
    · exact absurd (relative.symm.trans none) nofun
    · rw [isContaining_of_relative relative, isAbsolute_of_relative relative]
      exact held.symm
  · next shut =>
    rcases position with absolute | ⟨none, area⟩
    · have absolute' := isAbsolute_of_absolute absolute
      refine ⟨declared, fun none => absurd (absolute.symm.trans none) nofun, ?_⟩
      rw [isContaining_of_isAbsolute absolute', absolute', Bool.true_or]
    · have free := isAbsolute_of_none none
      refine ⟨declared, fun _ => area, ?_⟩
      rw [isContaining_of_none none, free, Bool.false_or]
      rw [free, Bool.not_false, Bool.true_and] at shut
      exact (Bool.eq_false_iff.mpr shut).symm

theorem celled_onStack (group : NodeData) (mask : Option String) (source : NodeData)
    {n : StyledNode} (h : n.styles.Each (Declared n.source)) :
    Celled (onStack group mask source n) := by
  have position := position?_cellPatch source group.bounds n.styles
  refine celled_contain (Styles.Each.apply (h.imp fun _ => .inl)
    (declared_cellPatch source group.bounds n.source)) ?_
  cases pinned : isPinned source && source.bounds.isSome && group.bounds.isSome with
  | true => exact .inl (position.trans (if_pos pinned))
  | false =>
    exact .inr ⟨position.trans (if_neg (by rw [pinned]; decide)), area_cellPatch pinned n.styles⟩

/-! ## styled trees -/

/-- the roots of styled trees declare what they can declare anywhere, so it is enough to know what
this means for a child that is stacked or settled -/
theorem eachDeclared_styleNode (p : Policy) {R : NodeData → StyledNode → Prop}
    (stacked : ∀ d mask source c, d.kind = .group → c.styles.Each (Declared c.source) →
      R d (onStack d mask source c))
    (settled : ∀ d children, d.source.kind ≠ .group →
      (∀ c ∈ children, c.styles.Each (Declared c.source)) →
      ∀ c' ∈ (settle ⟨d, children⟩).children, R d.source c')
    (n : DesignNode) (parent : ParentContext) (r : Float) (names : NameRegistry) :
    ∀ tree ∈ (styleNode p parent r n names).1,
      tree.styles.Each (Declared tree.source) ∧ tree.EachChild R := by
  refine eachChild_styleNode p (O := fun _ t => t.styles.Each (Declared t.source)) ?wrapper ?stack
    ?drawing ?box (fun _ => stacked) settled n parent r names
  case wrapper =>
    exact fun parent d only c h => h.apply (declared_inlinePatch d only parent c.source)
  case stack =>
    intro parent r d mask name children _ tree h
    obtain rfl := eq_of_stack? h
    exact each_stackStyles d parent d
  case drawing => exact fun parent r d hasChildren name _ => each_nodeStyles _ _ _ _
  case box =>
    exact fun parent r d hasChildren name children _ _ => declared_settle (each_nodeStyles _ _ _ _)

/-- **The styles of a styled tree declare what they can declare anywhere, and on stacks a cell.** -/
theorem declared_styleNode (p : Policy) (n : DesignNode) (parent : ParentContext) (r : Float)
    (names : NameRegistry) : ∀ tree ∈ (styleNode p parent r n names).1, Plain tree := by
  have stacked (d : NodeData) (mask : Option String) (source : NodeData) (c : StyledNode)
      (group : d.kind = .group) (h : c.styles.Each (Declared c.source)) :
      Beside d (onStack d mask source c) :=
    ⟨fun _ => celled_onStack d mask source h, fun other => absurd group other⟩
  have settled (d : StyledData) (children : List StyledNode) (noGroup : d.source.kind ≠ .group)
      (declared : ∀ c ∈ children, c.styles.Each (Declared c.source)) :
      ∀ c' ∈ (settle ⟨d, children⟩).children, Beside d.source c' := fun c' hc' =>
    ⟨fun group => absurd group noGroup, fun _ => declared_of_mem_settle hc' declared⟩
  intro tree h
  obtain ⟨declared, below⟩ := eachDeclared_styleNode p stacked settled n parent r names tree h
  exact ⟨declared, below⟩

end Styling
end Handoff
