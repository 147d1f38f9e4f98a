import Handoff.Proofs.Styled.Written

/-!
# The nodes that are shown

Which nodes of a tree have to become elements can be said of each node by itself: it is rendered, and
so is everything above it, and nothing above it is a drawing.  The generators find these nodes by
recursion.

* `StyledNode.descents`    the walk over a tree, each node beside the nodes above it;
* `StyledNode.rendered`    the nodes that are rendered below rendered ones;
* `StyledNode.shown`       the nodes that have to become elements, in the order of the walk;
* `shown_eq_emitted`       they are the nodes that the recursion finds;
* `written_eq_emitted`     and the nodes that are written, where nothing is below a text.
-/

namespace Handoff.StyledNode

mutual
/-- the walk, each node beside those above it, the nearest first -/
def descents (above : List StyledNode) (n : StyledNode) : List (List StyledNode × StyledNode) :=
  match n with
  | ⟨d, cs⟩ => (above, ⟨d, cs⟩) :: descentsAll (⟨d, cs⟩ :: above) cs
termination_by structural n

def descentsAll (above ns : List StyledNode) : List (List StyledNode × StyledNode) :=
  match ns with
  | [] => []
  | n :: ns => n.descents above ++ descentsAll above ns
termination_by structural ns
end

/-- the descents are the walk -/
theorem map_snd_descents (n : StyledNode) :
    ∀ above, (n.descents above).map Prod.snd = n.preOrder := by
  induction n using forest
    (Q := fun ns => ∀ above, (descentsAll above ns).map Prod.snd = preOrderAll ns) with
  | node d cs ih =>
    intro above
    show ⟨d, cs⟩ :: (descentsAll (⟨d, cs⟩ :: above) cs).map Prod.snd = _
    rw [ih]
    rfl
  | nil => rfl
  | cons n ns ih ihs above =>
    show (n.descents above ++ descentsAll above ns).map Prod.snd = n.preOrder ++ preOrderAll ns
    rw [List.map_append, ih, ihs]

/-- what is above a node is of the tree too, unless it was above that -/
theorem above_of_mem_descents (n : StyledNode) : ∀ above, ∀ e ∈ n.descents above, ∀ m ∈ e.1,
    m ∈ above ∨ m ∈ n.preOrder := by
  induction n using forest
    (Q := fun ns => ∀ above, ∀ e ∈ descentsAll above ns, ∀ m ∈ e.1,
      m ∈ above ∨ m ∈ preOrderAll ns) with
  | node d cs ih =>
    intro above e he m hm
    rcases List.mem_cons.mp he with rfl | below
    · exact .inl hm
    · rcases ih _ e below m hm with higher | lower
      · rcases List.mem_cons.mp higher with rfl | higher
        · exact .inr List.mem_cons_self
        · exact .inl higher
      · exact .inr (List.mem_cons_of_mem _ lower)
  | nil above e he m hm => cases he
  | cons n ns ih ihs above e he m hm =>
    rcases List.mem_append.mp he with first | later
    · exact (ih above e first m hm).imp_right (List.mem_append_left _)
    · exact (ihs above e later m hm).imp_right (List.mem_append_right _)

/-- the nodes that are rendered and have only rendered ones above them, in the order of the walk -/
def rendered (root : StyledNode) : List StyledNode :=
  ((root.descents []).filter fun e => e.2.isRendered && e.1.all fun m => m.isRendered).map Prod.snd

theorem rendered_sublist (root : StyledNode) : root.rendered.Sublist root.preOrder := by
  rw [← map_snd_descents root []]
  exact List.filter_sublist.map _

/-- nothing hides what is in a tree of rendered nodes -/
theorem rendered_eq_preOrder {root : StyledNode} (all : ∀ m ∈ root.preOrder, m.isRendered = true) :
    root.rendered = root.preOrder := by
  rw [rendered, ← map_snd_descents root []]
  refine congrArg _ (List.filter_eq_self.mpr fun e he => ?_)
  have self : e.2 ∈ root.preOrder := by
    rw [← map_snd_descents root []]
    exact List.mem_map_of_mem he
  rw [Bool.and_eq_true, List.all_eq_true]
  refine ⟨all e.2 self, fun m hm => ?_⟩
  rcases above_of_mem_descents root [] e he m hm with none | inside
  · cases none
  · exact all m inside

/-- whether a node lets what is below it be shown -/
def isOpen (n : StyledNode) : Bool := n.isRendered && !n.isDrawn

/-- whether a node is rendered, and nothing above it is hidden or a drawing -/
def isShown (e : List StyledNode × StyledNode) : Bool := e.2.isRendered && e.1.all isOpen

/-- the nodes that have to become elements -/
def shown (root : StyledNode) : List StyledNode := ((root.descents []).filter isShown).map Prod.snd

theorem shown_sublist (root : StyledNode) : root.shown.Sublist root.preOrder := by
  rw [← map_snd_descents root []]
  exact List.filter_sublist.map _

section
variable {d : StyledData} {cs : List StyledNode}

theorem emitted_hidden (h : d.isRendered = false) : emitted ⟨d, cs⟩ = [] := by
  simp only [emitted, h, Bool.not_false, if_true]

theorem emitted_drawn (rendered : d.isRendered = true) (drawn : isDrawn ⟨d, cs⟩ = true) :
    emitted ⟨d, cs⟩ = [⟨d, cs⟩] := by
  simp only [emitted, rendered, drawn, Bool.not_true, Bool.false_eq_true, if_false, if_true]

theorem emitted_box (rendered : d.isRendered = true) (plain : isDrawn ⟨d, cs⟩ = false) :
    emitted ⟨d, cs⟩ = ⟨d, cs⟩ :: emittedAll cs := by
  simp only [emitted, rendered, plain, Bool.not_true, Bool.false_eq_true, if_false]

end

theorem emittedAll_append (a b : List StyledNode) :
    emittedAll (a ++ b) = emittedAll a ++ emittedAll b := by
  induction a with
  | nil => rfl
  | cons n a ih =>
    show n.emitted ++ emittedAll (a ++ b) = (n.emitted ++ emittedAll a) ++ _
    rw [ih, List.append_assoc]

/-! ## both accounts agree -/

/-- of what is below some nodes nothing is shown unless they are all open -/
theorem shown_below (n : StyledNode) : ∀ above, ((n.descents above).filter isShown).map Prod.snd
    = if above.all isOpen then n.emitted else [] := by
  induction n using forest
    (Q := fun ns => ∀ above, ((descentsAll above ns).filter isShown).map Prod.snd
      = if above.all isOpen then emittedAll ns else []) with
  | node d cs ih =>
    intro above
    have self : isShown (above, ⟨d, cs⟩) = (d.isRendered && above.all isOpen) := rfl
    have children : (⟨d, cs⟩ :: above : List StyledNode).all isOpen
        = (d.isRendered && !isDrawn ⟨d, cs⟩ && above.all isOpen) := rfl
    show (((above, (⟨d, cs⟩ : StyledNode)) :: descentsAll (⟨d, cs⟩ :: above) cs).filter
      isShown).map Prod.snd = _
    rw [List.filter_cons, apply_ite (List.map Prod.snd), List.map_cons, ih, self, children]
    cases rendered : d.isRendered with
    | false => simp only [emitted_hidden rendered, Bool.false_and, Bool.false_eq_true, if_false,
        ite_self]
    | true =>
      cases drawn : isDrawn ⟨d, cs⟩ with
      | true => simp only [emitted_drawn rendered drawn, Bool.true_and, Bool.not_true,
          Bool.false_and, Bool.false_eq_true, if_false]
      | false =>
        rw [emitted_box rendered drawn]
        cases above.all isOpen <;> rfl
  | nil => exact (ite_self _).symm
  | cons n ns ih ihs above =>
    show ((n.descents above ++ descentsAll above ns).filter isShown).map Prod.snd = _
    rw [List.filter_append, List.map_append, ih, ihs]
    cases above.all isOpen <;> rfl

/-- the recursion finds the nodes that are shown -/
theorem shown_eq_emitted (root : StyledNode) : root.shown = root.emitted := shown_below root []

/-- where nothing is below a text, all nodes that are shown are written -/
theorem written_eq_emitted (n : StyledNode) :
    (∀ m ∈ n.preOrder, m.isText = true → m.children = []) → n.written = n.emitted := by
  induction n using forest
    (Q := fun ns => (∀ m ∈ preOrderAll ns, m.isText = true → m.children = []) →
      writtenAll ns = emittedAll ns) with
  | node d cs ih =>
    intro leaves
    have below := ih fun m hm => leaves m (List.mem_cons_of_mem _ hm)
    cases rendered : d.isRendered with
    | false => rw [written_hidden rendered, emitted_hidden rendered]
    | true =>
      cases drawn : isDrawn ⟨d, cs⟩ with
      | true => rw [written_leaf rendered (by rw [drawn]; rfl), emitted_drawn rendered drawn]
      | false =>
        rw [emitted_box rendered drawn]
        cases text : d.isText with
        | false => rw [written_box rendered (by rw [drawn, text]; rfl), below]
        | true =>
          obtain rfl : cs = [] := leaves _ List.mem_cons_self text
          rw [written_leaf rendered (by rw [text, Bool.or_true])]
          rfl
  | nil => rfl
  | cons n ns ih ihs leaves =>
    show n.written ++ writtenAll ns = n.emitted ++ emittedAll ns
    rw [ih fun m hm => leaves m (List.mem_append_left _ hm),
      ihs fun m hm => leaves m (List.mem_append_right _ hm)]

end Handoff.StyledNode
