import Handoff.Proofs.Design.WellFormed
import Handoff.Proofs.Styling.Role
import Handoff.Styled.Overlay

/-!
# Texts of styled trees

A text of a well-formed design has characters and nothing below it, and this stays so whatever
becomes of it: styles, masks and overlays do not change it.

* `Session.Yields`              the trees of a design, with overlays or without;
* `StyledNode.IsLabel`          characters, no children, no drawing;
* `StyledNode.TextsAreLabels`   a tree whose texts are like this;
* `textsAreLabels_of_yields`    so are all trees of well-formed designs.
-/

namespace Handoff

/-- the trees that a session makes of a design: the styled one, and what overlays make of it -/
inductive Session.Yields (s : Session) (design : DesignNode) : StyledNode → Prop
  | styled {tree : StyledNode} (h : (s.style design).1 = some tree) : Yields s design tree
  | overlaid {tree : StyledNode} (os : Overlays) (h : Yields s design tree) :
      Yields s design (os.apply tree)

namespace StyledNode

/-- a node that shows its characters and nothing else -/
structure IsLabel (n : StyledNode) : Prop where
  leaf : n.children = []
  plain : n.drawing = none
  characters : n.characters?.isSome = true

theorem IsLabel.not_drawn {n : StyledNode} (h : n.IsLabel) : n.isDrawn = false := by
  unfold isDrawn
  rw [h.leaf, h.plain]
  simp

def TextsAreLabels (root : StyledNode) : Prop :=
  ∀ m ∈ root.preOrder, m.isText = true → m.IsLabel

theorem TextsAreLabels.mk {d : StyledData} {cs : List StyledNode}
    (self : d.isText = true → IsLabel ⟨d, cs⟩) (children : ∀ c ∈ cs, c.TextsAreLabels) :
    TextsAreLabels ⟨d, cs⟩ :=
  forall_preOrder_mk.mpr ⟨self, children⟩

theorem isLabel_bare {n : StyledNode} : n.bare.IsLabel ↔ n.IsLabel := by
  obtain ⟨d, cs⟩ := n
  exact ⟨fun h => ⟨bareAll_eq_nil_iff.mp h.leaf, h.plain, h.characters⟩,
    fun h => ⟨bareAll_eq_nil_iff.mpr h.leaf, h.plain, h.characters⟩⟩

/-- what parents change in a node does not matter -/
theorem TextsAreLabels.congr {n m : StyledNode} (same : n.bare = m.bare) (h : m.TextsAreLabels) :
    n.TextsAreLabels := by
  refine (forall_preOrder_congr (fun k => ?_) same).mpr h
  have text : k.bare.isText = k.isText := by
    obtain ⟨d, cs⟩ := k
    rfl
  rw [text, isLabel_bare]

end StyledNode

/-! ## overlays -/

namespace Overlays
open StyledNode

variable (os : Overlays)

theorem applyAll_eq_map (ns : List StyledNode) : os.applyAll ns = ns.map os.apply := by
  induction ns with
  | nil => rfl
  | cons n ns ih =>
    show os.apply n :: os.applyAll ns = _
    rw [ih, List.map_cons]

theorem onData_source (n : StyledData) : (os.onData n).source = n.source := by
  unfold onData
  split <;> rfl

theorem onData_drawing (n : StyledData) : (os.onData n).drawing = n.drawing := by
  unfold onData
  split <;> rfl

theorem isText_onData (n : StyledData) : (os.onData n).isText = n.isText := by
  rw [StyledData.isText, StyledData.kind, onData_source]
  rfl

/-- overlays leave texts as they are -/
theorem textsAreLabels_apply (n : StyledNode) :
    n.TextsAreLabels → (os.apply n).TextsAreLabels := by
  induction n using forest
    (Q := fun ns => (∀ c ∈ ns, c.TextsAreLabels) → ∀ c ∈ os.applyAll ns, c.TextsAreLabels) with
  | node d cs ih =>
    intro h
    obtain ⟨own, below⟩ := forall_preOrder_mk.mp h
    refine .mk (fun text => ?_) (ih below)
    rw [isText_onData] at text
    have label := own text
    refine ⟨?_, (os.onData_drawing d).trans label.plain, ?_⟩
    · rw [applyAll_eq_map, show cs = [] from label.leaf]
      rfl
    · show (os.onData d).source.characters?.isSome = true
      rw [onData_source]
      exact label.characters
  | nil _ c hc => cases hc
  | cons n ns ih ihs h c hc =>
    rcases List.mem_cons.mp hc with rfl | hc
    · exact ih (h n List.mem_cons_self)
    · exact ihs (fun c hc => h c (List.mem_cons_of_mem _ hc)) c hc

end Overlays

/-! ## styled trees -/

namespace Styling
open StyledNode

theorem drawing?_of_characters {d : NodeData} (h : d.characters?.isSome = true) :
    drawing? d = none := by
  unfold NodeData.characters? at h
  unfold drawing?
  cases payload : d.payload with
  | text => rfl
  | container => rfl
  | group => rfl
  | shape => rfl
  | vector => rw [payload] at h; cases h

/-- the texts of a tree that is styled from a well-formed design -/
theorem textsAreLabels_styleNode (p : Policy) (n : DesignNode) : n.WellFormed →
    ∀ parent r names, ∀ tree ∈ (styleNode p parent r n names).1, tree.TextsAreLabels := by
  induction n using DesignNode.byChildren with
  | node d cs ih =>
    intro proper parent r names tree h
    have below {masked : Bool} {parent : ParentContext} {r : Float} {names : NameRegistry} :
        ∀ c ∈ (styleAll p parent r masked cs names).1, c.2.TextsAreLabels := by
      intro c hc
      obtain ⟨n, hn, names', styled⟩ := mem_styleAll hc
      exact ih n hn (proper.of_child hn) _ _ _ c.2 styled
    cases Role.of p d cs with
    | dropped hidden => rw [styleNode_dropped hidden] at h; cases h
    | emptyGroup kept group children =>
      rw [styleNode_emptyGroup kept group children] at h
      cases h
    | wrapper kept group only children =>
      rw [styleNode_wrapper kept group children] at h
      obtain ⟨c, first, rfl⟩ := Option.map_eq_some_iff.mp h
      exact (below c (List.mem_of_head? first)).congr (bare_restyle ..)
    | stack kept group first second rest children =>
      rw [styleNode_stack kept group children] at h
      dsimp only at h
      obtain rfl := eq_of_stack? h
      refine .mk (fun text => ?_) fun c' hc' => ?_
      · have kind : d.kind = .text := of_decide_eq_true text
        rw [group] at kind
        cases kind
      · obtain ⟨c, hc, rfl⟩ := List.mem_map.mp hc'
        exact (below c hc).congr (bare_onStack ..)
    | drawing kept vector =>
      rw [styleNode_drawing kept vector] at h
      obtain rfl := Option.some.inj h
      refine .mk (fun text => ?_) (List.forall_mem_nil _)
      have kind : d.kind = .text := of_decide_eq_true text
      rw [kind] at vector
      cases vector
    | box kept noGroup noVector =>
      rw [styleNode_box kept noGroup noVector] at h
      obtain rfl := Option.some.inj h
      refine TextsAreLabels.congr (bare_settle _) (.mk (fun text => ?_) fun c' hc' => ?_)
      · have kind : d.kind = .text := of_decide_eq_true text
        have own := proper.self
        have characters := NodeData.characters?_of_fits own.fits kind
        obtain rfl : cs = [] := own.leaf (NodeData.not_keepsChildren_of_fits own.fits kind)
        exact ⟨rfl, drawing?_of_characters characters, characters⟩
      · obtain ⟨c, hc, rfl⟩ := List.mem_map.mp hc'
        exact below c hc

/-- **The texts of a well-formed design are labels in all trees that are made of it.** -/
theorem textsAreLabels_of_yields {s : Session} {design : DesignNode} {root : StyledNode}
    (proper : design.WellFormed) (h : s.Yields design root) : root.TextsAreLabels := by
  induction h with
  | styled h => exact textsAreLabels_styleNode s.policy design proper {} 0.0 s.names _ h
  | overlaid os _ ih => exact os.textsAreLabels_apply _ ih

end Styling
end Handoff
