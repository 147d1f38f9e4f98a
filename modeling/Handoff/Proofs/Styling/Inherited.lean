import Handoff.Proofs.Styling.Containing
import Handoff.Proofs.Styling.Declarations
import Handoff.Proofs.Styling.Hidden

/-!
# What a styled node inherits

A styled node stands for one node of the design, but something of the nodes above that one ends up
in it too.  Nodes are styled from the root down, so what is handed on is known by the WAY from the
root to the source; the groups that give way to their only child are on it, although they have no
styled node of their own.

* `StyledNode.tell`        what is said of each node of a tree;
* `Displaced`, `Lasting`   what parents change afterwards, and what they leave alone;
* `Through`, `shown_through`   on a way through groups that give way, one node is shown;
* `Reading`                what is read off a styled node, and what it should be by the way;
* `told_styleNode`         it is what it should be, at every node of a styled tree;
* `rotations_inherited`    the rotation of a node sums up those on the way to its source.
-/

namespace Handoff

/-- what is said of each node of a tree, in the order of the walk -/
def StyledNode.tell {β : Type} (f : StyledData → β) (n : StyledNode) : List β :=
  n.preOrder.map fun m => f m.toStyledData

namespace Styling
open DesignNode Address StyledNode

variable {β : Type} {f : StyledData → β}

theorem tell_mk (d : StyledData) (cs : List StyledNode) :
    tell f ⟨d, cs⟩ = f d :: cs.flatMap (tell f) := by
  show ((⟨d, cs⟩ : StyledNode) :: preOrderAll cs).map _ = _
  rw [preOrderAll_eq_flatMap, List.map_cons, List.map_flatMap]
  rfl

theorem tell_ne_nil (n : StyledNode) : n.tell f ≠ [] := by
  obtain ⟨d, cs⟩ := n
  rw [tell_mk]
  exact List.cons_ne_nil _ _

/-! ## what parents leave alone -/

/-- styles that differ in the properties only by which parents place their children -/
def Displaced (styles styles' : Styles) : Prop :=
  ∀ key, key ∉ placeKeys → styles'.get? key = styles.get? key

theorem displaced_set {key : String} (h : key ∈ placeKeys) (s : Styles) (v : StyleValue) :
    Displaced s (Dict.set s key v) := by
  intro k other
  rw [Dict.get?_set]
  exact if_neg fun same : k = key => other (same ▸ h)

/-- what depends neither on masks nor on the place of a node -/
def Lasting (f : StyledData → β) : Prop := ∀ (d : StyledData) (styles : Styles)
  (mask : Option String), Displaced d.styles styles →
    f { d with styles, maskImageRef := mask } = f d

namespace Lasting
variable (lasting : Lasting f)
include lasting

theorem tell_restyle {change : Styles → Styles} (n : StyledNode)
    (h : Displaced n.styles (change n.styles)) :
    (n.restyle change).tell f = n.tell f := by
  obtain ⟨d, cs⟩ := n
  show tell f ⟨{ d with styles := change d.styles }, cs⟩ = _
  rw [tell_mk, tell_mk]
  exact congrArg (· :: cs.flatMap (tell f)) (lasting d _ d.maskImageRef h)

theorem tell_makeRelative (n : StyledNode) : (makeRelative n).tell f = n.tell f := by
  unfold makeRelative
  split
  · rfl
  · exact lasting.tell_restyle n (displaced_set (by decide) _ _)

theorem tell_contain (n : StyledNode) : (contain n).tell f = n.tell f := by
  unfold contain
  split
  · exact lasting.tell_restyle n (displaced_set (by decide) _ _)
  · rfl

theorem tell_onStack (group : NodeData) (mask : Option String) (source : NodeData)
    (n : StyledNode) : (onStack group mask source n).tell f = n.tell f := by
  obtain ⟨d, cs⟩ := n
  unfold onStack
  rw [lasting.tell_contain,
    lasting.tell_restyle _ fun _ other => get?_cellPatch source group.bounds other _, tell_mk, tell_mk]
  exact congrArg (· :: cs.flatMap (tell f)) (lasting d d.styles _ fun _ _ => rfl)

theorem tell_reversePainting (ns : List StyledNode) :
    (reversePainting ns).flatMap (tell f) = ns.flatMap (tell f) := by
  have painted (n : StyledNode) (x : Float) :
      (n.restyle fun s => s.set "z-index" (.num x)).tell f = n.tell f :=
    lasting.tell_restyle n (displaced_set (by decide) _ _)
  unfold reversePainting
  simp only [List.flatMap_map, painted]
  show ns.zipIdx.flatMap (fun e => tell f e.1) = _
  rw [← List.flatMap_map Prod.fst, List.zipIdx_map_fst]

theorem tell_settle (n : StyledNode) : (settle n).tell f = n.tell f := by
  obtain ⟨ns, painted, settled⟩ := settle_cases n
  have before : ns.flatMap (tell f) = n.children.flatMap (tell f) := by
    rcases painted with rfl | rfl
    · rfl
    · exact lasting.tell_reversePainting n.children
  obtain ⟨d, cs⟩ := n
  rcases settled with e | ⟨e, -⟩
  · rw [e, tell_mk, tell_mk, List.flatMap_map, ← before]
    simp only [lasting.tell_makeRelative]
    exact congrArg (· :: ns.flatMap (tell f))
      (lasting d _ d.maskImageRef (displaced_set (by decide) d.styles _))
  · rw [e, tell_mk, tell_mk, before]

end Lasting

/-! ## trees made from their children -/

/-- what is said of a tree that may be none -/
def told (f : StyledData → β) (tree : Option StyledNode) : List β := tree.toList.flatMap (tell f)

/-- what is said of children that are styled beside the data of their own nodes -/
def toldAll (f : StyledData → β) (children : List (NodeData × StyledNode)) : List β :=
  children.flatMap fun c => c.2.tell f

theorem told_some (n : StyledNode) : told f (some n) = n.tell f := List.append_nil _

theorem told_eq (tree : Option StyledNode) :
    told f tree = (tree.toList.flatMap StyledNode.preOrder).map fun m => f m.toStyledData :=
  List.map_flatMap.symm

theorem toldAll_eq_nil_iff {children : List (NodeData × StyledNode)} :
    toldAll f children = [] ↔ children = [] := by
  cases children with
  | nil => exact iff_of_true rfl rfl
  | cons c cs =>
    refine iff_of_false (fun none => ?_) (List.cons_ne_nil c cs)
    exact tell_ne_nil c.2 (List.append_eq_nil_iff.mp none).1

theorem told_settle (lasting : Lasting f) (d : StyledData)
    (children : List (NodeData × StyledNode)) :
    told f (some (settle ⟨d, children.map Prod.snd⟩)) = f d :: toldAll f children := by
  rw [told_some, lasting.tell_settle, tell_mk, List.flatMap_map]
  rfl

theorem told_stack? (lasting : Lasting f) (parent : ParentContext) (r : Float) (group : NodeData)
    (mask : Option String) (name : String) (children : List (NodeData × StyledNode)) :
    told f (stack? parent r group mask name children) = if (toldAll f children).isEmpty then []
      else f { source := group, uniqueName := name, styles := stackStyles group parent,
               rotation := r } :: toldAll f children := by
  unfold stack?
  have empty : children.isEmpty = (toldAll f children).isEmpty := by
    rw [Bool.eq_iff_iff, List.isEmpty_iff, List.isEmpty_iff, toldAll_eq_nil_iff]
  rw [empty]
  split
  · rfl
  · rw [told_some, tell_mk, List.flatMap_map]
    simp only [lasting.tell_onStack]
    rfl

/-! ## ways through groups that give way -/

instance (p : Policy) : DecidablePred (GivesWay p) := fun n =>
  inferInstanceAs (Decidable (n.kind = .group ∧ (keptData p n.children).length = 1))

/-- all nodes on a way give way to the next one, up to the last -/
def Through (p : Policy) (way : List DesignNode) : Prop := ∀ n ∈ way.dropLast, GivesWay p n

instance (p : Policy) (way : List DesignNode) : Decidable (Through p way) :=
  inferInstanceAs (Decidable (∀ n ∈ way.dropLast, GivesWay p n))

theorem through_single (p : Policy) (n : DesignNode) : Through p [n] := List.forall_mem_nil _

theorem through_cons {p : Policy} {n : DesignNode} {way : List DesignNode} (h : way ≠ []) :
    Through p (n :: way) ↔ GivesWay p n ∧ Through p way := by
  rw [Through, List.dropLast_cons_of_ne_nil h, List.forall_mem_cons]
  rfl

theorem not_givesWay_of_noGroup {p : Policy} {n : DesignNode} (h : n.kind ≠ .group) :
    ¬ GivesWay p n := fun way => h way.1

theorem not_givesWay_of_many {p : Policy} {d first second : NodeData} {rest : List NodeData}
    {cs : List DesignNode} (children : keptData p cs = first :: second :: rest) :
    ¬ GivesWay p ⟨d, cs⟩ := by
  intro way
  have one : (keptData p cs).length = 1 := way.2
  rw [children, List.length_cons, List.length_cons] at one
  omega

section
variable {p : Policy} {ns : List DesignNode}

/-- nothing comes of nodes of which none is kept -/
theorem none_of_keptData (h : keptData p ns = []) : (∀ k, shownFrom p false k ns = []) ∧
    ∀ parent r names, styleAll p parent r false ns names = ([], names) := by
  induction ns with
  | nil => exact ⟨fun _ => rfl, fun _ _ _ => rfl⟩
  | cons n ns ih =>
    obtain ⟨d, cs⟩ := n
    rw [keptData_cons] at h
    cases hidden : p.keeps d with
    | true =>
      rw [if_pos hidden] at h
      cases h
    | false =>
      rw [if_neg (Bool.eq_false_iff.mp hidden)] at h
      obtain ⟨shown, styled⟩ := ih h
      refine ⟨fun k => ?_, fun parent r names => ?_⟩
      · rw [shownFrom_cons rfl, shown_dropped hidden, Bool.false_and, shown]
        rfl
      · rw [styleAll_cons rfl, styleNode_dropped hidden, Bool.false_and]
        exact styled parent r names

/-- where one child is kept, all that comes of the children comes of that one -/
theorem one_of_keptData {only : NodeData} (h : keptData p ns = [only]) :
    ∃ i c, ns[i]? = some c ∧ c.toNodeData = only ∧
      (∀ k, shownFrom p false k ns = (shown p c).map (under (k + i))) ∧
      ∀ parent r names, styleAll p parent r false ns names
        = (let styled := styleNode p parent r c names
          (styled.1.toList.map fun t => (only, t), styled.2)) := by
  induction ns with
  | nil => cases h
  | cons n ns ih =>
    rw [keptData_cons] at h
    cases kept : p.keeps n.toNodeData with
    | true =>
      rw [if_pos kept] at h
      obtain ⟨rfl, none⟩ := List.cons.inj h
      obtain ⟨shown, styled⟩ := none_of_keptData none
      refine ⟨0, n, rfl, rfl, fun k => ?_, fun parent r names => ?_⟩
      · rw [shownFrom_cons rfl, Bool.false_and, shown, List.append_nil]
        rfl
      · rw [styleAll_cons rfl, Bool.false_and]
        dsimp only
        rw [styled, List.append_nil]
    | false =>
      rw [if_neg (Bool.eq_false_iff.mp kept)] at h
      obtain ⟨i, c, hc, data, shown, styled⟩ := ih h
      obtain ⟨d, cs⟩ := n
      refine ⟨i + 1, c, hc, data, fun k => ?_, fun parent r names => ?_⟩
      · rw [shownFrom_cons rfl, shown_dropped kept, Bool.false_and, shown, Nat.add_assoc,
          Nat.add_comm 1]
        rfl
      · rw [styleAll_cons rfl, styleNode_dropped kept, Bool.false_and]
        exact styled parent r names

/-- the first node that is shown is reached through groups that give way, and no other one is -/
theorem shown_through (p : Policy) (n : DesignNode) : shown p n = [] ∨
    ∃ e es, shown p n = e :: es ∧ Through p (n.path e.1) ∧
      ∀ e' ∈ es, ¬ Through p (n.path e'.1) := by
  induction n using DesignNode.byChildren with
  | node d cs ih =>
    have below {masked : Bool} (solid : ¬ GivesWay p ⟨d, cs⟩) :
        ∀ e ∈ shownFrom p masked 0 cs, ¬ Through p (path ⟨d, cs⟩ e.1) := by
      rintro ⟨a, m⟩ he through
      obtain ⟨i, c, b, hc, _, rfl, _⟩ := mem_shownFrom.mp he
      rw [Nat.zero_add] at through
      have hc : (DesignNode.mk d cs).children[i]? = some c := hc
      rw [path_cons hc, through_cons (path_ne_nil c b)] at through
      exact solid through.1
    have root : Through p (path ⟨d, cs⟩ []) := through_single p _
    cases Role.of p d cs with
    | dropped hidden => exact .inl (shown_dropped hidden)
    | emptyGroup kept group children => exact .inl (shown_emptyGroup kept group children)
    | wrapper kept group only children =>
      obtain ⟨i, c, hc, -, shown, -⟩ := one_of_keptData children
      rw [shown_wrapper kept group children, shown 0, Nat.zero_add]
      rcases ih c (List.mem_of_getElem? hc) with none | ⟨e, es, found, through, others⟩
      · exact .inl (by rw [none]; rfl)
      · have give : GivesWay p ⟨d, cs⟩ := ⟨group, congrArg List.length children⟩
        have down (e : Address × DesignNode) :
            Through p (path ⟨d, cs⟩ (under i e).1) ↔ Through p (c.path e.1) := by
          have hc : (DesignNode.mk d cs).children[i]? = some c := hc
          rw [under, path_cons hc, through_cons (path_ne_nil c e.1)]
          exact and_iff_right give
        refine .inr ⟨under i e, es.map (under i), by rw [found]; rfl, (down e).mpr through, ?_⟩
        exact List.forall_mem_map.mpr fun e' he' => mt (down e').mp (others e' he')
    | stack kept group first second rest children =>
      rw [shown_stack kept group children]
      split
      · exact .inl rfl
      · exact .inr ⟨_, _, rfl, root, below (not_givesWay_of_many children)⟩
    | drawing kept vector =>
      exact .inr ⟨_, _, shown_drawing kept vector, root, List.forall_mem_nil _⟩
    | box kept noGroup noVector =>
      exact .inr ⟨_, _, shown_box kept noGroup noVector, root,
        below (not_givesWay_of_noGroup noGroup)⟩

end

/-! ## readings -/

theorem forall₂_of_map_eq {α γ δ : Type} {f : α → δ} {g : γ → δ} {as : List α} {cs : List γ}
    (h : as.map f = cs.map g) : List.Forall₂ (fun a c => f a = g c) as cs := by
  have same : List.Forall₂ (· = ·) (as.map f) (cs.map g) := by
    rw [h]
    exact List.forall₂_refl _
  exact List.forall₂_map_right_iff.mp (List.forall₂_map_left_iff.mp same)

/-- something that is read off a styled node, and what it should be by the way from the node at
which styling began in some context: it is set at the source, stays as it is when a box or a stack
holds the node, and is patched by the groups that give way to it -/
structure Reading (p : Policy) (β : Type) where
  read : StyledData → β
  expected : ParentContext → Float → List DesignNode → β
  lasting : Lasting read
  own : ∀ parent r (n : DesignNode) hasChildren name, n.kind ≠ .group →
    read (nodeData p parent (r + n.rotationDegrees) n.toNodeData hasChildren name)
      = expected parent r [n]
  stack : ∀ parent r (n : DesignNode) name, n.kind = .group →
    read { source := n.toNodeData, uniqueName := name, styles := stackStyles n.toNodeData parent,
           rotation := r + n.rotationDegrees } = expected parent r [n]
  inBox : ∀ parent r n way, n.kind ≠ .group → way ≠ [] →
    expected parent r (n :: way) = expected (.of n.toNodeData) (r + n.rotationDegrees) way
  inStack : ∀ parent r n way, n.kind = .group → ¬ GivesWay p n → way ≠ [] →
    expected parent r (n :: way)
      = expected (stackContext n.toNodeData parent) (r + n.rotationDegrees) way
  behind : ∀ parent r n way, GivesWay p n → ¬ Through p way →
    expected parent r (n :: way) = expected parent (r + n.rotationDegrees) way
  patched : ∀ parent r n c way d, GivesWay p n → Through p (c :: way) →
    read d = expected parent (r + n.rotationDegrees) (c :: way) →
    read { d with styles := (inlinePatch n.toNodeData c.toNodeData parent).apply d.styles }
      = expected parent r (n :: c :: way)

namespace Reading
variable {p : Policy} (R : Reading p β)

/-- in children that are styled in one context, where that is right for each of them -/
theorem toldAll_styleAll {parent : ParentContext} {r : Float} {g : Address → β}
    {ns : List DesignNode} {masked : Bool} {k : Nat} {names : NameRegistry}
    (each : ∀ c ∈ ns, ∀ names, told R.read (styleNode p parent r c names).1
      = (shown p c).map fun e => R.expected parent r (c.path e.1))
    (below : ∀ i c a, ns[i]? = some c → g ((k + i) :: a) = R.expected parent r (c.path a)) :
    toldAll R.read (styleAll p parent r masked ns names).1
      = (shownFrom p masked k ns).map fun e => g e.1 := by
  induction ns generalizing masked k names with
  | nil => rfl
  | cons n ns ih =>
    obtain ⟨first, later⟩ := List.forall_mem_cons.mp each
    have there (i : Nat) (c : DesignNode) (a : Address) (hc : ns[i]? = some c) :
        g ((k + 1 + i) :: a) = R.expected parent r (c.path a) := by
      rw [Nat.add_assoc, Nat.add_comm 1]
      exact below (i + 1) c a hc
    cases mask : masked && p.keeps n.toNodeData && n.isMask with
    | true =>
      simp only [Bool.and_eq_true] at mask
      rw [mask.1.1, styleAll_mask mask.1.2 mask.2, shownFrom_mask mask.1.2 mask.2]
      exact ih later there
    | false =>
      have here : toldAll R.read ((styleNode p parent r n names).1.toList.map
          fun t => (n.toNodeData, t)) = ((shown p n).map (under k)).map fun e => g e.1 := by
        rw [toldAll, List.flatMap_map, List.map_map]
        refine (first names).trans (List.map_congr_left fun e _ => ?_)
        exact (below 0 n e.1 rfl).symm
      rw [styleAll_cons mask, shownFrom_cons mask, List.map_append, ← here]
      dsimp only
      rw [toldAll, List.flatMap_append]
      exact congrArg _ (ih later there)

/-- the patch of a group that gives way changes what is read off the root, and nothing below it -/
theorem told_patched {parent : ParentContext} {r : Float} {n c : DesignNode}
    {tree : Option StyledNode} (give : GivesWay p n)
    (h : told R.read tree
      = (shown p c).map fun e => R.expected parent (r + n.rotationDegrees) (c.path e.1)) :
    told R.read (tree.map fun t => t.restyle (inlinePatch n.toNodeData c.toNodeData parent).apply)
      = (shown p c).map fun e => R.expected parent r (n :: c.path e.1) := by
  cases tree with
  | none =>
    have none : (shown p c).map (fun e =>
        R.expected parent (r + n.rotationDegrees) (c.path e.1)) = [] := h.symm
    rw [List.map_eq_nil_iff.mp none]
    rfl
  | some t =>
    obtain ⟨d, cs⟩ := t
    rw [told_some, tell_mk] at h
    rcases shown_through p c with none | ⟨e, es, found, through, others⟩
    · rw [none] at h
      cases h
    · -- the root of the tree is the first node that is shown, all others are held on the way
      rw [found, List.map_cons] at h ⊢
      obtain ⟨root, rest⟩ := List.cons.inj h
      obtain ⟨way, hway⟩ : ∃ way, c.path e.1 = c :: way :=
        List.head?_eq_some_iff.mp (head?_path c e.1)
      rw [hway] at through root ⊢
      rw [Option.map_some, told_some]
      show tell R.read ⟨{ d with styles := _ }, cs⟩ = _
      rw [tell_mk, R.patched parent r n c way d give through root, rest]
      refine congrArg _ (List.map_congr_left fun e' he' => ?_)
      exact (R.behind parent r n _ give (others e' he')).symm

/-- **What is read off the nodes of a styled tree is what it should be**, by the ways to the nodes
that are shown. -/
theorem told_styleNode (n : DesignNode) : ∀ parent r names,
    told R.read (styleNode p parent r n names).1
      = (shown p n).map fun e => R.expected parent r (n.path e.1) := by
  induction n using DesignNode.byChildren with
  | node d cs ih =>
    intro parent r names
    have down {i : Nat} {c : DesignNode} (hc : cs[i]? = some c) (a : Address) :
        path ⟨d, cs⟩ ((0 + i) :: a) = ⟨d, cs⟩ :: c.path a := by
      have hc : (DesignNode.mk d cs).children[i]? = some c := hc
      rw [Nat.zero_add, path_cons hc]
    -- in a box and on a stack children are styled alike, but for the context and the mask
    have children (masked : Bool) (inner : ParentContext) (names : NameRegistry)
        (hold : ∀ way, way ≠ [] → R.expected parent r (⟨d, cs⟩ :: way)
          = R.expected inner (r + d.rotationDegrees) way) :
        toldAll R.read (styleAll p inner (r + d.rotationDegrees) masked cs names).1
          = (shownFrom p masked 0 cs).map fun e =>
            R.expected parent r (path ⟨d, cs⟩ e.1) := by
      refine R.toldAll_styleAll (g := fun a => R.expected parent r (path ⟨d, cs⟩ a))
        (fun c hc names => ih c hc _ _ names) fun i c a hc => ?_
      show R.expected parent r (path ⟨d, cs⟩ ((0 + i) :: a)) = _
      rw [down hc, hold _ (path_ne_nil c a)]
    cases Role.of p d cs with
    | dropped hidden => rw [styleNode_dropped hidden, shown_dropped hidden]; rfl
    | emptyGroup kept group none =>
      rw [styleNode_emptyGroup kept group none, shown_emptyGroup kept group none]; rfl
    | wrapper kept group only one =>
      obtain ⟨i, c, hc, rfl, shown, styled⟩ := one_of_keptData one
      have give : GivesWay p ⟨d, cs⟩ := ⟨group, congrArg List.length one⟩
      rw [styleNode_wrapper kept group one, shown_wrapper kept group one, shown, styled,
        List.map_map]
      dsimp only
      have patched := R.told_patched (r := r) give (ih c (List.mem_of_getElem? hc) parent _ names)
      refine Eq.trans ?_ (patched.trans (List.map_congr_left fun e _ => ?_))
      · cases (styleNode p parent (r + d.rotationDegrees) c names).1 <;> rfl
      · exact congrArg (R.expected parent r) (down hc e.1).symm
    | stack kept group first second rest many =>
      rw [styleNode_stack kept group many, shown_stack kept group many]
      dsimp only
      rw [told_stack? R.lasting, children true (stackContext d parent) _ fun way some =>
          R.inStack parent r _ way group (not_givesWay_of_many many) some,
        R.stack parent r ⟨d, cs⟩ _ group, List.isEmpty_map]
      split <;> rfl
    | drawing kept vector =>
      rw [styleNode_drawing kept vector, shown_drawing kept vector]
      dsimp only
      rw [told_some, tell_mk]
      exact congrArg (· :: []) (R.own parent r ⟨d, cs⟩ _ _ (not_group_of_isVector vector))
    | box kept noGroup noVector =>
      rw [styleNode_box kept noGroup noVector, shown_box kept noGroup noVector]
      dsimp only
      rw [told_settle R.lasting, children false (.of d) _ fun way some =>
          R.inBox parent r _ way noGroup some, R.own parent r ⟨d, cs⟩ _ _ noGroup]
      rfl

/-- the same node by node, beside the sources of the nodes -/
theorem forall₂_styleNode (n : DesignNode) (parent : ParentContext) (r : Float)
    (names : NameRegistry) : List.Forall₂
      (fun m e => m.source = e.2.toNodeData ∧
        R.read m.toStyledData = R.expected parent r (n.path e.1))
      ((styleNode p parent r n names).1.toList.flatMap StyledNode.preOrder) (shown p n) := by
  have sources := (sources_eq _).trans (sources_styleNode p n parent r names)
  have readings := (told_eq _).symm.trans (R.told_styleNode n parent r names)
  unfold Styling.sources data at sources
  generalize (styleNode p parent r n names).1.toList.flatMap StyledNode.preOrder = nodes
    at sources readings ⊢
  have both : nodes.map (fun m => (m.source, R.read m.toStyledData)) = (shown p n).map
      fun e => (e.2.toNodeData, R.expected parent r (n.path e.1)) := by
    rw [← List.zip_map', ← List.zip_map', sources, readings]
  exact (forall₂_of_map_eq both).imp fun _ _ => Prod.mk.inj

end Reading

/-! ## rotations -/

/-- the nodes that are left of a design in its styled tree: a part of the walk over it, from which
nodes are missing for one of the five reasons only -/
structure Left (p : Policy) (root : DesignNode) (left : List (Address × DesignNode)) : Prop where
  part : left.Sublist root.located
  missing : ∀ e ∈ root.located, e ∉ left ↔ Missing p root left e.1

theorem left_shown (p : Policy) (root : DesignNode) : Left p root (shown p root) :=
  ⟨shown_sublist p root, fun e he => not_mem_shown_iff p e.1 he⟩

theorem rotation_nodeData (p : Policy) (parent : ParentContext) (r : Float) (n : NodeData)
    (hasChildren : Bool) (name : String) :
    (nodeData p parent r n hasChildren name).rotation = r := rfl

/-- each node turns by its own rotation, from that of its parent on -/
def rotations (p : Policy) : Reading p Float where
  read n := n.rotation
  expected _ r way := way.foldl (fun turned d => turned + d.rotationDegrees) r
  lasting _ _ _ _ := rfl
  own parent r n hasChildren name _ :=
    rotation_nodeData p parent (r + n.rotationDegrees) n.toNodeData hasChildren name
  stack _ _ _ _ _ := rfl
  inBox _ _ _ _ _ _ := rfl
  inStack _ _ _ _ _ _ _ := rfl
  behind _ _ _ _ _ _ := rfl
  patched _ _ _ _ _ _ _ _ h := h

/-- **The rotation of a node sums up those on the way to its source.**  The nodes of a styled tree
stand for the nodes that are left of the design, in the order of the walk, and the rotation of each
is the sum over the way from the root of the design to its source, from the root on: also over
groups that gave way to an only child, and over those that are stacks. -/
theorem rotations_inherited (s : Session) (root : DesignNode) : ∃ left, Left s.policy root left ∧
    (∀ e ∈ left, (root.path e.1).getLast? = some e.2) ∧
    List.Forall₂ (fun m e => m.source = e.2.toNodeData ∧
        m.rotation = (root.path e.1).foldl (fun turned d => turned + d.rotationDegrees) 0.0)
      ((s.style root).1.toList.flatMap StyledNode.preOrder) left := by
  have left := left_shown s.policy root
  refine ⟨shown s.policy root, left, fun e he => getLast?_path (left.part.subset he), ?_⟩
  exact (rotations s.policy).forall₂_styleNode root {} 0.0 s.names

end Styling
end Handoff
