import Handoff.Proofs.Styled.Written

/-!
# The nodes that are written, and how far their siblings reach over them

Where the children of a box overlap, each of them but the last is reached over by the next one.  The
generators hand this on to the children while they walk over them.

* `StyledNode.overlapped`     the nodes that are written, each beside the overlap that it has;
* `map_snd_overlapped`        they are the nodes that are written;
* `mem_overlapped_of_child`   the overlap of a child, by its place.
-/

namespace Handoff.StyledNode

mutual
/-- the nodes that are written, each beside how far its next sibling reaches over it -/
def overlapped (overlap : Option Overlap) (n : StyledNode) : List (Option Overlap × StyledNode) :=
  match n with
  | ⟨d, cs⟩ =>
    if !d.isRendered then []
    else if isDrawn ⟨d, cs⟩ || d.isText then [(overlap, ⟨d, cs⟩)]
    else (overlap, ⟨d, cs⟩) :: overlappedAll d.overlap cs
termination_by structural n

def overlappedAll (overlap : Option Overlap) (ns : List StyledNode) :
    List (Option Overlap × StyledNode) :=
  match ns with
  | [] => []
  | n :: ns => overlapped (if ns.isEmpty then none else overlap) n ++ overlappedAll overlap ns
termination_by structural ns
end

section
variable {d : StyledData} {cs : List StyledNode} {overlap : Option Overlap}

theorem overlapped_hidden (h : d.isRendered = false) : overlapped overlap ⟨d, cs⟩ = [] := by
  simp only [overlapped, h, Bool.not_false, if_true]

theorem overlapped_leaf (rendered : d.isRendered = true)
    (h : (isDrawn ⟨d, cs⟩ || d.isText) = true) :
    overlapped overlap ⟨d, cs⟩ = [(overlap, ⟨d, cs⟩)] := by
  simp only [overlapped, rendered, h, Bool.not_true, Bool.false_eq_true, if_false, if_true]

theorem overlapped_box (rendered : d.isRendered = true)
    (h : (isDrawn ⟨d, cs⟩ || d.isText) = false) :
    overlapped overlap ⟨d, cs⟩ = (overlap, ⟨d, cs⟩) :: overlappedAll d.overlap cs := by
  simp only [overlapped, rendered, h, Bool.not_true, Bool.false_eq_true, if_false]

theorem mem_overlapped_self (rendered : d.isRendered = true) :
    (overlap, ⟨d, cs⟩) ∈ overlapped overlap ⟨d, cs⟩ := by
  cases leaf : isDrawn ⟨d, cs⟩ || d.isText with
  | true => rw [overlapped_leaf rendered leaf]; exact List.mem_singleton_self _
  | false => rw [overlapped_box rendered leaf]; exact List.mem_cons_self

end

/-- the overlaps do not change which nodes are written -/
theorem map_snd_overlapped (n : StyledNode) :
    ∀ overlap, (n.overlapped overlap).map Prod.snd = n.written := by
  induction n using forest
    (Q := fun ns => ∀ overlap, (overlappedAll overlap ns).map Prod.snd = writtenAll ns) with
  | node d cs ih =>
    intro overlap
    cases rendered : d.isRendered with
    | false => rw [overlapped_hidden rendered, written_hidden rendered]; rfl
    | true =>
      cases leaf : isDrawn ⟨d, cs⟩ || d.isText with
      | true => rw [overlapped_leaf rendered leaf, written_leaf rendered leaf]; rfl
      | false => rw [overlapped_box rendered leaf, written_box rendered leaf, List.map_cons, ih]
  | nil _ => rfl
  | cons n ns ih ihs overlap =>
    show (n.overlapped _ ++ overlappedAll overlap ns).map Prod.snd = n.written ++ writtenAll ns
    rw [List.map_append, ih, ihs]

/-- how far the next of some siblings reaches over the one at a place, which nothing does at the last -/
def overlapAt (overlap : Option Overlap) (count i : Nat) : Option Overlap :=
  if i + 1 < count then overlap else none

theorem mem_overlappedAll {overlap : Option Overlap} {ns : List StyledNode} {i : Nat}
    {c : StyledNode} (hc : ns[i]? = some c) (rendered : c.isRendered = true) :
    (overlapAt overlap ns.length i, c) ∈ overlappedAll overlap ns := by
  induction ns generalizing i with
  | nil => cases hc
  | cons n ns ih =>
    rw [overlappedAll]
    cases i with
    | zero =>
      obtain rfl : n = c := Option.some.inj hc
      obtain ⟨d, cs⟩ := n
      refine List.mem_append_left _ ?_
      have same : overlapAt overlap ((⟨d, cs⟩ : StyledNode) :: ns).length 0
          = if ns.isEmpty then none else overlap := by
        cases ns with
        | nil => rfl
        | cons m ns => exact if_pos (by simp)
      rw [same]
      exact mem_overlapped_self rendered
    | succ i =>
      refine List.mem_append_right _ ?_
      have same : overlapAt overlap (n :: ns).length (i + 1) = overlapAt overlap ns.length i := by
        unfold overlapAt
        simp only [List.length_cons, Nat.add_lt_add_iff_right]
      rw [same]
      exact ih hc

/-- a child that is rendered has the overlap of its parent, unless it is the last child -/
theorem mem_overlapped_of_child {m c : StyledNode} {i : Nat}
    (box : (m.isDrawn || m.isText) = false) (hc : m.children[i]? = some c)
    (rendered : c.isRendered = true) (n : StyledNode) : ∀ overlap, m ∈ n.written →
    (overlapAt m.overlap m.children.length i, c) ∈ n.overlapped overlap := by
  induction n using forest
    (Q := fun ns => ∀ overlap, m ∈ writtenAll ns →
      (overlapAt m.overlap m.children.length i, c) ∈ overlappedAll overlap ns) with
  | node d cs ih =>
    intro overlap hm
    cases shown : d.isRendered with
    | false => rw [written_hidden shown] at hm; cases hm
    | true =>
      cases leaf : isDrawn ⟨d, cs⟩ || d.isText with
      | true =>
        rw [written_leaf shown leaf] at hm
        obtain rfl := List.mem_singleton.mp hm
        rw [show (isDrawn ⟨d, cs⟩ || d.isText) = false from box] at leaf
        cases leaf
      | false =>
        rw [written_box shown leaf] at hm
        rw [overlapped_box shown leaf]
        refine List.mem_cons_of_mem _ ?_
        rcases List.mem_cons.mp hm with rfl | hm
        · exact mem_overlappedAll hc rendered
        · exact ih d.overlap hm
  | nil _ hm => cases hm
  | cons k ns ih ihs overlap hm =>
    rw [overlappedAll]
    rcases List.mem_append.mp hm with hm | hm
    · exact List.mem_append_left _ (ih _ hm)
    · exact List.mem_append_right _ (ihs overlap hm)

end Handoff.StyledNode
