import Handoff.Styled.Node

/-!
# The nodes that are written

Every generator writes one element for a node that is rendered, and goes on to its children unless
the node is a drawing or a text.  Which nodes these are does not depend on styles and masks, so what
the surroundings of a node change in it does not matter: what is written of a tree can be read off
the bare tree.

* `StyledNode.forest`     induction over a tree and its lists of children at once;
* `StyledNode.written`    the nodes that have an element, each before those below it;
* `written_sublist_emitted`, `written_sublist`   they are among the nodes that become elements, and
                          a part of the walk over the tree;
* `StyledNode.bare`       a tree without its styles and masks;
* `written_bare`          the written nodes of the bare tree are the written nodes, made bare.
-/

namespace Handoff

/-- the data without what the surroundings of a node may change -/
def StyledData.bare (d : StyledData) : StyledData :=
  { d with styles := ∅, maskImageRef := none }

namespace StyledNode

/-- induction along the recursion of the walks: from lists of children to their parents -/
theorem forest {P : StyledNode → Prop} {Q : List StyledNode → Prop}
    (node : ∀ d cs, Q cs → P ⟨d, cs⟩) (nil : Q []) (cons : ∀ n ns, P n → Q ns → Q (n :: ns))
    (n : StyledNode) : P n :=
  StyledNode.rec node nil cons n

mutual
/-- the nodes that have an element of their own, each before those below it -/
def written (n : StyledNode) : List StyledNode :=
  match n with
  | ⟨d, cs⟩ =>
    if !d.isRendered then []
    else if isDrawn ⟨d, cs⟩ || d.isText then [⟨d, cs⟩]
    else ⟨d, cs⟩ :: writtenAll cs
termination_by structural n

def writtenAll (ns : List StyledNode) : List StyledNode :=
  match ns with
  | [] => []
  | n :: ns => n.written ++ writtenAll ns
termination_by structural ns
end

section
variable {d : StyledData} {cs : List StyledNode}

theorem written_hidden (h : d.isRendered = false) : written ⟨d, cs⟩ = [] := by
  simp only [written, h, Bool.not_false, if_true]

theorem written_leaf (rendered : d.isRendered = true)
    (h : (isDrawn ⟨d, cs⟩ || d.isText) = true) : written ⟨d, cs⟩ = [⟨d, cs⟩] := by
  simp only [written, rendered, h, Bool.not_true, Bool.false_eq_true, if_false, if_true]

theorem written_box (rendered : d.isRendered = true)
    (h : (isDrawn ⟨d, cs⟩ || d.isText) = false) :
    written ⟨d, cs⟩ = ⟨d, cs⟩ :: writtenAll cs := by
  simp only [written, rendered, h, Bool.not_true, Bool.false_eq_true, if_false]

/-- a node that is rendered is written -/
theorem mem_written_self (rendered : d.isRendered = true) : ⟨d, cs⟩ ∈ written ⟨d, cs⟩ := by
  cases leaf : isDrawn ⟨d, cs⟩ || d.isText with
  | true => rw [written_leaf rendered leaf]; exact List.mem_singleton_self _
  | false => rw [written_box rendered leaf]; exact List.mem_cons_self

end

theorem writtenAll_eq_flatMap (ns : List StyledNode) : writtenAll ns = ns.flatMap written := by
  induction ns with
  | nil => rfl
  | cons n ns ih =>
    show n.written ++ writtenAll ns = _
    rw [ih, List.flatMap_cons]

/-- a text keeps what is below it to itself, so fewer nodes are written than may be drawn -/
theorem written_sublist_emitted (n : StyledNode) : n.written.Sublist n.emitted := by
  induction n using forest (Q := fun ns => (writtenAll ns).Sublist (emittedAll ns)) with
  | node d cs ih =>
    rw [emitted]
    cases rendered : d.isRendered with
    | false => rw [written_hidden rendered]; exact List.nil_sublist _
    | true =>
      simp only [Bool.not_true, Bool.false_eq_true, if_false]
      cases drawn : isDrawn ⟨d, cs⟩ with
      | true =>
        have alone : written ⟨d, cs⟩ = [⟨d, cs⟩] := written_leaf rendered (by rw [drawn]; rfl)
        rw [if_pos rfl]
        exact alone ▸ List.Sublist.refl _
      | false =>
        rw [if_neg Bool.false_ne_true]
        cases text : d.isText with
        | true =>
          rw [written_leaf rendered (by rw [drawn, text]; rfl)]
          exact (List.nil_sublist _).cons_cons _
        | false =>
          rw [written_box rendered (by rw [drawn, text]; rfl)]
          exact ih.cons_cons _
  | nil => exact List.Sublist.refl _
  | cons n ns ih ihs => exact ih.append ihs

theorem emitted_sublist (n : StyledNode) : n.emitted.Sublist n.preOrder := by
  induction n using forest (Q := fun ns => (emittedAll ns).Sublist (preOrderAll ns)) with
  | node d cs ih =>
    show (emitted ⟨d, cs⟩).Sublist (⟨d, cs⟩ :: preOrderAll cs)
    rw [emitted]
    split
    · exact List.nil_sublist _
    · split
      · exact (List.nil_sublist _).cons_cons _
      · exact ih.cons_cons _
  | nil => exact List.Sublist.refl _
  | cons n ns ih ihs => exact ih.append ihs

theorem written_sublist (n : StyledNode) : n.written.Sublist n.preOrder :=
  (written_sublist_emitted n).trans (emitted_sublist n)

/-! ## bare trees -/

mutual
/-- the tree without styles and masks -/
def bare (n : StyledNode) : StyledNode :=
  match n with
  | ⟨d, cs⟩ => ⟨d.bare, bareAll cs⟩
termination_by structural n

def bareAll (ns : List StyledNode) : List StyledNode :=
  match ns with
  | [] => []
  | n :: ns => n.bare :: bareAll ns
termination_by structural ns
end

theorem bare_mk (d : StyledData) (cs : List StyledNode) :
    bare ⟨d, cs⟩ = ⟨d.bare, bareAll cs⟩ := rfl

theorem bareAll_eq_map (ns : List StyledNode) : bareAll ns = ns.map bare := by
  induction ns with
  | nil => rfl
  | cons n ns ih =>
    show n.bare :: bareAll ns = _
    rw [ih, List.map_cons]

theorem holdsDrawing_bare (n : StyledNode) : n.bare.holdsDrawing = n.holdsDrawing := by
  induction n using forest (Q := fun ns => allHoldDrawings (bareAll ns) = allHoldDrawings ns) with
  | node d cs ih =>
    have empty : (bareAll cs).isEmpty = cs.isEmpty := by cases cs <;> rfl
    rw [bare_mk]
    unfold holdsDrawing
    rw [ih, empty]
    rfl
  | nil => rfl
  | cons n ns ih ihs =>
    show (n.bare.holdsDrawing && allHoldDrawings (bareAll ns)) = _
    rw [ih, ihs]
    rfl

theorem allHoldDrawings_bareAll (ns : List StyledNode) :
    allHoldDrawings (bareAll ns) = allHoldDrawings ns := by
  induction ns with
  | nil => rfl
  | cons n ns ih =>
    show (n.bare.holdsDrawing && allHoldDrawings (bareAll ns)) = _
    rw [holdsDrawing_bare, ih]
    rfl

theorem isDrawn_bare (n : StyledNode) : n.bare.isDrawn = n.isDrawn := by
  obtain ⟨d, cs⟩ := n
  have empty : (bareAll cs).isEmpty = cs.isEmpty := by cases cs <;> rfl
  rw [bare_mk]
  unfold isDrawn
  rw [allHoldDrawings_bareAll, empty]
  rfl

/-- which nodes are written does not depend on styles and masks -/
theorem written_bare (n : StyledNode) : n.bare.written = n.written.map bare := by
  induction n using forest (Q := fun ns => writtenAll (bareAll ns) = (writtenAll ns).map bare) with
  | node d cs ih =>
    have rendered' : d.bare.isRendered = d.isRendered := rfl
    have leaf' : (isDrawn ⟨d.bare, bareAll cs⟩ || d.bare.isText)
        = (isDrawn ⟨d, cs⟩ || d.isText) :=
      congrArg (· || d.isText) (isDrawn_bare ⟨d, cs⟩)
    rw [bare_mk]
    cases rendered : d.isRendered with
    | false => rw [written_hidden (rendered'.trans rendered), written_hidden rendered]; rfl
    | true =>
      rw [rendered] at rendered'
      cases leaf : isDrawn ⟨d, cs⟩ || d.isText with
      | true => rw [written_leaf rendered' (leaf'.trans leaf), written_leaf rendered leaf]; rfl
      | false =>
        rw [written_box rendered' (leaf'.trans leaf), written_box rendered leaf, ih, List.map_cons]
        rfl
  | nil => rfl
  | cons n ns ih ihs =>
    show n.bare.written ++ writtenAll (bareAll ns) = (n.written ++ writtenAll ns).map bare
    rw [ih, ihs, List.map_append]

end StyledNode
end Handoff
