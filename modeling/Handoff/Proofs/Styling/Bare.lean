import Handoff.Proofs.Styled.Written
import Handoff.Styling.Session

/-!
# Styled trees apart from styles and masks

What parents change in a styled node afterwards are styles and masks only: on a stack, under a group
that gives way to it, and when its siblings are settled, the bare tree stays the same.  So do the
nodes that are written of it, and the design nodes that these come from.  Nor does any of it touch the
ORIGIN of a node, the design node that it comes from and its name, or the order of the walk.

* `bare_settle`, `bare_onStack`, …     the changes that parents make keep the bare tree;
* `writtenOf`                          the design nodes that the written nodes come from;
* `writtenOf_mk`                       these are none, or the node itself alone or with those of
                                       its children, and in both cases the node is visible;
* `forall_preOrder_mk`, `forall_preOrder_congr`   what holds of all nodes of a tree;
* `StyledNode.origins`                 the origins along the pre-order walk;
* `origins_congr`                      trees that are the same when bare have the same origins;
* `originsOf`, `originsAll`            the origins of what `styleNode` and `styleAll` give, with one
                                       equation for each way in which a tree is made.
-/

namespace Handoff.Styling
open StyledNode

theorem bare_restyle (f : Styles → Styles) (n : StyledNode) : (n.restyle f).bare = n.bare := by
  obtain ⟨d, cs⟩ := n
  rfl

theorem bare_makeRelative (n : StyledNode) : (makeRelative n).bare = n.bare := by
  unfold makeRelative
  split
  · rfl
  · exact bare_restyle _ n

theorem map_bare_reversePainting (ns : List StyledNode) :
    (reversePainting ns).map bare = ns.map bare := by
  unfold reversePainting
  simp only [List.map_map, Function.comp_def, bare_restyle]
  show ns.zipIdx.map (bare ∘ Prod.fst) = ns.map bare
  rw [← List.map_map, List.zipIdx_map_fst]

theorem bare_settle (n : StyledNode) : (settle n).bare = n.bare := by
  obtain ⟨d, cs⟩ := n
  have relative (ns : List StyledNode) : (ns.map makeRelative).map bare = ns.map bare := by
    rw [List.map_map]
    exact congrArg (List.map · ns) (funext bare_makeRelative)
  unfold settle
  dsimp only
  generalize (Option.getD _ false && decide (1 < cs.length)) = reversed
  have painted : (if reversed = true then reversePainting cs else cs).map bare
      = cs.map bare := by
    cases reversed with
    | false => rfl
    | true => exact map_bare_reversePainting cs
  generalize (if reversed = true then reversePainting cs else cs) = ns at painted ⊢
  split
  · rw [bare_mk, bare_mk, bareAll_eq_map, bareAll_eq_map, relative, painted]
    rfl
  · rw [bare_mk, bare_mk, bareAll_eq_map, bareAll_eq_map, painted]

theorem bare_contain (n : StyledNode) : (contain n).bare = n.bare := by
  unfold contain
  split
  · exact bare_restyle _ n
  · rfl

theorem bare_onStack (group : NodeData) (mask : Option String) (source : NodeData)
    (n : StyledNode) : (onStack group mask source n).bare = n.bare := by
  obtain ⟨d, cs⟩ := n
  unfold onStack
  rw [bare_contain, bare_restyle]
  rfl

/-- the one tree that can come of a stack -/
theorem eq_of_stack? {parent : ParentContext} {r : Float} {group : NodeData} {mask : Option String}
    {name : String} {children : List (NodeData × StyledNode)} {tree : StyledNode}
    (h : stack? parent r group mask name children = some tree) :
    tree = {
      source := group
      uniqueName := name
      styles := stackStyles group parent
      rotation := r
      children := children.map fun c => onStack group mask c.1 c.2 } := by
  unfold stack? at h
  split at h
  · cases h
  · exact (Option.some.inj h).symm

/-! ## the sources of the written nodes -/

/-- the design nodes that the written nodes of a tree come from -/
def writtenOf (n : StyledNode) : List NodeData := n.written.map fun m => m.source

theorem writtenOf_congr {n m : StyledNode} (h : n.bare = m.bare) : writtenOf n = writtenOf m := by
  have through (k : StyledNode) : writtenOf k = writtenOf k.bare := by
    unfold writtenOf
    rw [written_bare, List.map_map]
    exact congrArg (List.map · k.written) (funext fun ⟨_, _⟩ => rfl)
  rw [through n, h, ← through m]

theorem writtenOf_mk (d : StyledData) (cs : List StyledNode) (h : d.presence = none) :
    writtenOf ⟨d, cs⟩ = [] ∨ d.isVisible = true ∧
      (writtenOf ⟨d, cs⟩ = [d.source] ∨ writtenOf ⟨d, cs⟩ = d.source :: cs.flatMap writtenOf) := by
  have same : d.isRendered = d.isVisible := by
    rw [StyledData.isRendered, h]
    exact Bool.or_false _
  unfold writtenOf
  cases visible : d.isVisible with
  | false =>
    left
    rw [written_hidden (same.trans visible)]
    rfl
  | true =>
    refine .inr ⟨rfl, ?_⟩
    cases leaf : isDrawn ⟨d, cs⟩ || d.isText with
    | true =>
      left
      rw [written_leaf (same.trans visible) leaf]
      rfl
    | false =>
      right
      rw [written_box (same.trans visible) leaf, List.map_cons, writtenAll_eq_flatMap,
        List.map_flatMap]

/-! ## trees made from their children -/

/-- the same in a tree that may be none -/
def writtenOf? (tree : Option StyledNode) : List NodeData := tree.toList.flatMap writtenOf

/-- the same in children that are styled beside the data of their own nodes -/
def writtenOfAll (children : List (NodeData × StyledNode)) : List NodeData :=
  children.flatMap fun c => writtenOf c.2

theorem writtenOf?_some (n : StyledNode) : writtenOf? (some n) = writtenOf n := List.append_nil _

theorem writtenOfAll_append (a b : List (NodeData × StyledNode)) :
    writtenOfAll (a ++ b) = writtenOfAll a ++ writtenOfAll b := List.flatMap_append

theorem writtenOfAll_toList (d : NodeData) (tree : Option StyledNode) :
    writtenOfAll (tree.toList.map fun n => (d, n)) = writtenOf? tree := List.flatMap_map ..

/-- the patch of a group around an only child changes its styles -/
theorem writtenOf?_patched {children : List (NodeData × StyledNode)} (h : children.length ≤ 1)
    (f : Styles → Styles) :
    writtenOf? (children.head?.map fun c => c.2.restyle f) = writtenOfAll children := by
  match children with
  | [] => rfl
  | [c] =>
    show writtenOf (c.2.restyle f) ++ [] = writtenOf c.2 ++ []
    rw [writtenOf_congr (bare_restyle f c.2)]
  | _ :: _ :: _ => exact absurd h (by simp)

theorem writtenOf?_stack? (parent : ParentContext) (r : Float) (group : NodeData)
    (mask : Option String) (name : String) (children : List (NodeData × StyledNode)) :
    writtenOf? (stack? parent r group mask name children) = [] ∨ group.visible = true ∧
      (writtenOf? (stack? parent r group mask name children) = [group] ∨
        writtenOf? (stack? parent r group mask name children)
          = group :: writtenOfAll children) := by
  unfold stack?
  split
  · exact .inl rfl
  · have stacked : (children.map fun c => onStack group mask c.1 c.2).flatMap writtenOf
        = writtenOfAll children := by
      have each (c : NodeData × StyledNode) :
          writtenOf (onStack group mask c.1 c.2) = writtenOf c.2 :=
        writtenOf_congr (bare_onStack group mask c.1 c.2)
      rw [List.flatMap_map]
      simp only [each]
      rfl
    rw [writtenOf?_some, ← stacked]
    exact writtenOf_mk _ _ rfl

theorem writtenOf?_settle (d : StyledData) (children : List (NodeData × StyledNode))
    (h : d.presence = none) :
    let tree := some (settle ⟨d, children.map Prod.snd⟩)
    writtenOf? tree = [] ∨ d.isVisible = true ∧
      (writtenOf? tree = [d.source] ∨ writtenOf? tree = d.source :: writtenOfAll children) := by
  intro tree
  have same : (children.map Prod.snd).flatMap writtenOf = writtenOfAll children :=
    List.flatMap_map ..
  rw [writtenOf?_some, writtenOf_congr (bare_settle _), ← same]
  exact writtenOf_mk d _ h

end Handoff.Styling

namespace Handoff

/-! ## origins -/

/-- the design node and the name of a styled node -/
def StyledData.origin (n : StyledData) : NodeData × String := (n.source, n.uniqueName)

namespace StyledNode

def origins (n : StyledNode) : List (NodeData × String) := n.preOrder.map fun m => m.origin

theorem preOrderAll_eq_flatMap (ns : List StyledNode) :
    preOrderAll ns = ns.flatMap preOrder := by
  induction ns with
  | nil => rfl
  | cons n ns ih =>
    show n.preOrder ++ preOrderAll ns = _
    rw [ih, List.flatMap_cons]

theorem forall_preOrder_mk {Q : StyledNode → Prop} {d : StyledData} {cs : List StyledNode} :
    (∀ m ∈ preOrder ⟨d, cs⟩, Q m) ↔ Q ⟨d, cs⟩ ∧ ∀ c ∈ cs, ∀ m ∈ c.preOrder, Q m := by
  refine List.forall_mem_cons.trans (and_congr_right fun _ => ?_)
  rw [preOrderAll_eq_flatMap]
  simp only [List.mem_flatMap, forall_exists_index, and_imp]
  exact ⟨fun h c hc m hm => h m c hc hm, fun h m c hc hm => h c hc m hm⟩

theorem origins_mk (d : StyledData) (cs : List StyledNode) :
    origins ⟨d, cs⟩ = d.origin :: cs.flatMap origins := by
  show ((⟨d, cs⟩ : StyledNode) :: preOrderAll cs).map _ = _
  rw [preOrderAll_eq_flatMap, List.map_cons, List.map_flatMap]
  rfl

theorem origins_ne_nil (n : StyledNode) : n.origins ≠ [] := by
  obtain ⟨d, cs⟩ := n
  rw [origins_mk]
  exact List.cons_ne_nil _ _

theorem preOrder_bare (n : StyledNode) : n.bare.preOrder = n.preOrder.map bare := by
  induction n using forest
    (Q := fun ns => preOrderAll (bareAll ns) = (preOrderAll ns).map bare) with
  | node d cs ih =>
    show bare ⟨d, cs⟩ :: preOrderAll (bareAll cs) = _
    rw [ih]
    rfl
  | nil => rfl
  | cons n ns ih ihs =>
    show n.bare.preOrder ++ preOrderAll (bareAll ns) = (n.preOrder ++ preOrderAll ns).map bare
    rw [ih, ihs, List.map_append]

/-- what does not depend on styles and masks holds alike in trees that differ in these only -/
theorem forall_preOrder_congr {Q : StyledNode → Prop} (bare : ∀ m, Q m.bare ↔ Q m)
    {n n' : StyledNode} (same : n.bare = n'.bare) :
    (∀ m ∈ n.preOrder, Q m) ↔ ∀ m ∈ n'.preOrder, Q m := by
  have through (k : StyledNode) : (∀ m ∈ k.bare.preOrder, Q m) ↔ ∀ m ∈ k.preOrder, Q m := by
    rw [preOrder_bare, List.forall_mem_map]
    exact forall₂_congr fun m _ => bare m
  rw [← through n, same, through n']

theorem bareAll_eq_nil_iff {ns : List StyledNode} : bareAll ns = [] ↔ ns = [] := by
  rw [bareAll_eq_map, List.map_eq_nil_iff]

/-- origins are the same in trees that differ in styles and masks only -/
theorem origins_congr {n m : StyledNode} (h : n.bare = m.bare) : n.origins = m.origins := by
  have through (k : StyledNode) : k.origins = k.bare.origins := by
    unfold origins
    rw [preOrder_bare, List.map_map]
    exact congrArg (List.map · k.preOrder) (funext fun ⟨_, _⟩ => rfl)
  rw [through n, h, ← through m]

end StyledNode

namespace Styling
open StyledNode

/-! ## trees made from their children -/

/-- the origins in a tree that may be none -/
def originsOf (tree : Option StyledNode) : List (NodeData × String) := tree.toList.flatMap origins

/-- the origins in children that are styled beside the data of their own nodes -/
def originsAll (children : List (NodeData × StyledNode)) : List (NodeData × String) :=
  children.flatMap fun c => c.2.origins

/-- what depends on the origins only can be taken from the walk -/
theorem map_originsOf {β : Type} (f : NodeData × String → β) (tree : Option StyledNode) :
    (originsOf tree).map f = (tree.toList.flatMap preOrder).map fun n => f n.origin := by
  unfold originsOf origins
  rw [← List.map_flatMap, List.map_map]
  rfl

theorem originsOf_some (n : StyledNode) : originsOf (some n) = n.origins := List.append_nil _

theorem originsOf_eq_nil_iff {tree : Option StyledNode} : originsOf tree = [] ↔ tree = none := by
  cases tree with
  | none => exact iff_of_true rfl rfl
  | some n =>
    rw [originsOf_some]
    exact iff_of_false n.origins_ne_nil (Option.some_ne_none n)

theorem originsAll_append (a b : List (NodeData × StyledNode)) :
    originsAll (a ++ b) = originsAll a ++ originsAll b := List.flatMap_append

theorem originsAll_toList (d : NodeData) (tree : Option StyledNode) :
    originsAll (tree.toList.map fun n => (d, n)) = originsOf tree := List.flatMap_map ..

theorem originsAll_eq_nil_iff {children : List (NodeData × StyledNode)} :
    originsAll children = [] ↔ children = [] := by
  cases children with
  | nil => exact iff_of_true rfl rfl
  | cons c cs =>
    refine iff_of_false (fun h => ?_) (List.cons_ne_nil c cs)
    exact c.2.origins_ne_nil (List.append_eq_nil_iff.mp h).1

theorem originsOf_settle (d : StyledData) (children : List (NodeData × StyledNode)) :
    originsOf (some (settle ⟨d, children.map Prod.snd⟩)) = d.origin :: originsAll children := by
  rw [originsOf_some, origins_congr (bare_settle _), origins_mk, List.flatMap_map]
  rfl

/-- the patch of a group around an only child changes its styles -/
theorem originsOf_patched {children : List (NodeData × StyledNode)} (h : children.length ≤ 1)
    (f : Styles → Styles) :
    originsOf (children.head?.map fun c => c.2.restyle f) = originsAll children := by
  cases children with
  | nil => rfl
  | cons c cs =>
    obtain rfl : cs = [] :=
      List.eq_nil_of_length_eq_zero (Nat.le_zero.mp (Nat.le_of_succ_le_succ h))
    show originsOf (some (c.2.restyle f)) = c.2.origins ++ []
    rw [originsOf_some, origins_congr (bare_restyle f c.2), List.append_nil]

theorem originsOf_stack? (parent : ParentContext) (r : Float) (group : NodeData)
    (mask : Option String) (name : String) (children : List (NodeData × StyledNode)) :
    originsOf (stack? parent r group mask name children)
      = if children.isEmpty then [] else (group, name) :: originsAll children := by
  unfold stack?
  split
  · rfl
  · rw [originsOf_some, origins_mk, List.flatMap_map]
    simp only [fun c : NodeData × StyledNode => origins_congr (bare_onStack group mask c.1 c.2)]
    rfl

end Styling
end Handoff
