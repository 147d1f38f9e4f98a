import Handoff.Proofs.ClassList.Joined

/-!
# Equal sides, group after group

The classes of one variant and one box can also be joined as a group of their own: what is to become
of their places is entered in two tables, and when all groups are through, the classes are written
out.  The groups come in any order.

* `consolidateIn`, `consolidateIn_eq`   the walk over the groups, and that its order does not matter;
* `Separate`           the lists in which each side has its own class or a shorthand over it;
* `Becomes`            what becomes of a class among separate sides;
* `consolidate_joins`  the classes that are left, and the spacing of each side.
-/

namespace Handoff.ClassList

/-! ## the tables -/

/-- what is to become of the places in a list: a new class, or none any more -/
structure Edits where
  replaced : List (Nat × String)
  removed : List Nat
deriving Repr

namespace Edits

def empty : Edits := ⟨[], []⟩

/-- what is entered later stands in front -/
def add (edits more : Edits) : Edits :=
  ⟨more.replaced ++ edits.replaced, more.removed ++ edits.removed⟩

def apply (edits : Edits) (entry : String × Nat) : Option String :=
  if entry.2 ∈ edits.removed then none
  else some ((edits.replaced.lookup entry.2).getD entry.1)

/-- something is entered for a place -/
def Enters (edits : Edits) (i : Nat) : Option String → Prop
  | some cls => (i, cls) ∈ edits.replaced
  | none => i ∈ edits.removed

theorem not_enters_empty (i : Nat) (r : Option String) : ¬ empty.Enters i r := by
  cases r <;> exact List.not_mem_nil

theorem enters_add {edits more : Edits} {i : Nat} {r : Option String} :
    (edits.add more).Enters i r ↔ edits.Enters i r ∨ more.Enters i r := by
  cases r <;> exact List.mem_append.trans Or.comm

theorem enters_foldl {α : Type} {f : α → Edits} {l : List α} {edits : Edits} {i : Nat}
    {r : Option String} : (l.foldl (fun edits a => edits.add (f a)) edits).Enters i r ↔
      edits.Enters i r ∨ ∃ a ∈ l, (f a).Enters i r := by
  induction l generalizing edits with
  | nil => simp
  | cons a l ih => rw [List.foldl_cons, ih, enters_add, List.exists_mem_cons_iff, or_assoc]

theorem apply_of_not_enters {edits : Edits} {c : String} {i : Nat} (h : ∀ r, ¬ edits.Enters i r) :
    edits.apply (c, i) = some c := by
  have absent : edits.replaced.lookup i = none := by
    rw [List.lookup_eq_none_iff]
    rintro ⟨j, cls⟩ mem
    exact bne_iff_ne.mpr fun same => h (some cls) (by subst same; exact mem)
  have stays : i ∉ edits.removed := h none
  rw [apply, if_neg stays, absent]
  rfl

theorem apply_of_enters {edits : Edits} {c : String} {i : Nat} {r : Option String}
    (h : edits.Enters i r) (only : ∀ r', edits.Enters i r' → r' = r) : edits.apply (c, i) = r := by
  cases r with
  | none => exact if_pos h
  | some cls =>
    have stays : i ∉ edits.removed := fun mem => nomatch only none mem
    rw [apply, if_neg stays]
    cases found : edits.replaced.lookup i with
    | none =>
      rw [List.lookup_eq_none_iff] at found
      exact absurd rfl (bne_iff_ne.mp (found _ h))
    | some cls' =>
      obtain ⟨front, back, e, -⟩ := List.lookup_eq_some_iff.mp found
      have mem : (i, cls') ∈ edits.replaced := by
        rw [e]
        exact List.mem_append_right _ List.mem_cons_self
      exact only (some cls') mem

end Edits

/-! ## the walk over the groups -/

/-- the token that the last classes of all these sides carry -/
def common? (es : List ScaleSide) (variant : String) (box : Box) (sides : List Side) :
    Option String :=
  let token := fun s => (lastOn? es variant box s).map ScaleSide.token
  (sides.head?.bind token).filter fun t => sides.all fun s => token s = some t

/-- the first class for these sides is replaced by one with other letters, and the others go -/
def joinSides (es : List ScaleSide) (variant : String) (box : Box) (letters : List Char)
    (sides : List Side) : Option Edits :=
  (common? es variant box sides).map fun token =>
    let places := sides.filterMap fun s => (lastOn? es variant box s).map ScaleSide.index
    let first := places.min?.getD 0
    ⟨[(first, variant ++ String.ofList (box.letter :: letters) ++ "-" ++ token)],
      places.filter (· ≠ first)⟩

def groupEdits (es : List ScaleSide) (group : String × Box) : Edits :=
  let join := joinSides es group.1 group.2
  match join [] Side.all with
  | some edits => edits
  | none =>
    ((join ['x'] [.left, .right]).getD .empty).add ((join ['y'] [.top, .bottom]).getD .empty)

/-- `consolidate` with the groups in an order of their own -/
def consolidateIn (order : List (String × Box)) (classes : List String) : List String :=
  let es := entries classes
  let edits := order.foldl (fun edits group => edits.add (groupEdits es group)) Edits.empty
  classes.zipIdx.filterMap edits.apply

/-! ## what is entered -/

def axisSides : Side → List Side
  | .top | .bottom => [.top, .bottom]
  | .right | .left => [.left, .right]

theorem mem_all (s : Side) : s ∈ Side.all := by cases s <;> decide

theorem mem_axisSides (s : Side) : s ∈ axisSides s := by cases s <;> decide

theorem mem_axisSides_iff {u s : Side} : u ∈ axisSides s ↔ u.axis = s.axis := by
  cases u <;> cases s <;> decide

theorem axisSides_congr {u s : Side} (h : u.axis = s.axis) : axisSides u = axisSides s := by
  revert h
  cases u <;> cases s <;> decide

theorem forall_axisSides {p : Side → Prop} (s : Side) :
    (∀ u ∈ axisSides s, p u) ↔ p s ∧ p s.opposite := by
  cases s <;> simp [axisSides, Side.opposite, and_comm]

theorem common?_eq_some_iff {es : List ScaleSide} {variant t : String} {box : Box}
    {sides : List Side} {s : Side} (hs : s ∈ sides) : common? es variant box sides = some t ↔
      ∀ u ∈ sides, (lastOn? es variant box u).map ScaleSide.token = some t := by
  unfold common?
  dsimp only
  rw [Option.filter_eq_some_iff, List.all_eq_true]
  simp only [decide_eq_true_eq]
  refine ⟨fun h => h.2, fun h => ⟨?_, h⟩⟩
  obtain ⟨u, rest, rfl⟩ := List.exists_cons_of_ne_nil (List.ne_nil_of_mem hs)
  exact h u List.mem_cons_self

theorem of_lastOn? {es : List ScaleSide} {variant : String} {box : Box} {s : Side} {e : ScaleSide}
    (h : lastOn? es variant box s = some e) :
    e ∈ es ∧ e.variant = variant ∧ e.box = box ∧ e.side = s := by
  have mem := List.mem_of_getLast? h
  simpa [List.mem_filter, and_assoc] using mem

/-- a class that goes into the shorthand over these sides becomes this shorthand where it is the
first of theirs -/
def ScaleSide.outcome (es : List ScaleSide) (letters : List Char) (sides : List Side)
    (e : ScaleSide) : Option String :=
  if sides.all fun s => (lastOn? es e.variant e.box s).all fun o => e.index ≤ o.index then
    some (e.spelled letters).toClass
  else none

theorem enters_joinSides {es : List ScaleSide} {variant : String} {box : Box} {letters : List Char}
    {sides : List Side} (given : sides ≠ []) {i : Nat} {r : Option String} :
    ((joinSides es variant box letters sides).getD .empty).Enters i r ↔
      ∃ s ∈ sides, ∃ e, lastOn? es variant box s = some e ∧ e.index = i ∧
        common? es variant box sides = some e.token ∧ r = e.outcome es letters sides := by
  obtain ⟨s, hs⟩ := List.exists_mem_of_ne_nil sides given
  unfold joinSides
  cases ht : common? es variant box sides with
  | none =>
    refine iff_of_false (Edits.not_enters_empty i r) ?_
    rintro ⟨u, hu, e, he, hi, common, hr⟩
    cases common
  | some t =>
  have equal := (common?_eq_some_iff hs).mp ht
  rw [Option.map_some, Option.getD_some]
  dsimp only
  generalize hp : (sides.filterMap fun s => (lastOn? es variant box s).map ScaleSide.index)
    = places
  have place {j : Nat} :
      j ∈ places ↔ ∃ s ∈ sides, ∃ e, lastOn? es variant box s = some e ∧ e.index = j := by
    rw [← hp, List.mem_filterMap]
    simp only [Option.map_eq_some_iff]
  obtain ⟨e₀, he₀, -⟩ := Option.map_eq_some_iff.mp (equal s hs)
  obtain ⟨first, hf⟩ : ∃ first, places.min? = some first :=
    Option.isSome_iff_exists.mp (List.isSome_min?_of_mem (place.mpr ⟨s, hs, e₀, he₀, rfl⟩))
  obtain ⟨mem, least⟩ := List.min?_eq_some_iff.mp hf
  have token {s : Side} {e : ScaleSide} (hs : s ∈ sides)
      (he : lastOn? es variant box s = some e) : some t = some e.token := by
    rw [← equal s hs, he, Option.map_some]
  -- the first of the classes is the one at the least place
  have outcome {s : Side} {e : ScaleSide} (hs : s ∈ sides)
      (he : lastOn? es variant box s = some e) : e.outcome es letters sides =
        if e.index = first then
          some (variant ++ String.ofList (box.letter :: letters) ++ "-" ++ t)
        else none := by
    obtain ⟨-, rfl, rfl, -⟩ := of_lastOn? he
    obtain rfl := Option.some.inj (token hs he)
    have leading : (sides.all fun s => (lastOn? es e.variant e.box s).all fun o =>
        e.index ≤ o.index) = decide (e.index = first) := by
      rw [Bool.eq_iff_iff, List.all_eq_true, decide_eq_true_eq]
      constructor
      · intro all
        obtain ⟨u, hu, o, ho, rfl⟩ := place.mp mem
        have le := all u hu
        rw [ho, Option.all_some, decide_eq_true_eq] at le
        exact Nat.le_antisymm le (least _ (place.mpr ⟨s, hs, e, he, rfl⟩))
      · rintro same u hu
        cases ho : lastOn? es e.variant e.box u with
        | none => rfl
        | some o =>
          rw [Option.all_some, decide_eq_true_eq, same]
          exact least _ (place.mpr ⟨u, hu, o, ho, rfl⟩)
    rw [ScaleSide.outcome, leading, e.toClass_spelled]
    simp only [decide_eq_true_eq]
  rw [hf, Option.getD_some]
  constructor
  · intro entered
    cases r with
    | some cls =>
      obtain ⟨rfl, rfl⟩ := Prod.mk.inj (List.mem_singleton.mp entered)
      obtain ⟨u, hu, o, ho, index⟩ := place.mp mem
      exact ⟨u, hu, o, ho, index, token hu ho, by rw [outcome hu ho, if_pos index]⟩
    | none =>
      obtain ⟨hi, ne⟩ := List.mem_filter.mp entered
      obtain ⟨u, hu, o, ho, rfl⟩ := place.mp hi
      exact ⟨u, hu, o, ho, rfl, token hu ho,
        by rw [outcome hu ho, if_neg (of_decide_eq_true ne)]⟩
  · rintro ⟨u, hu, o, ho, rfl, -, rfl⟩
    rw [outcome hu ho]
    split
    · next index => exact List.mem_singleton.mpr (by rw [index])
    · next ne =>
      exact List.mem_filter.mpr ⟨place.mpr ⟨u, hu, o, ho, rfl⟩, decide_eq_true ne⟩

/-- a class is joined with those of all sides, or else with that of the opposite side -/
structure GoesInto (es : List ScaleSide) (e : ScaleSide) (letters : List Char)
    (sides : List Side) : Prop where
  last : lastOn? es e.variant e.box e.side = some e
  common : common? es e.variant e.box sides = some e.token
  which : letters = [] ∧ sides = Side.all ∨ letters = [e.side.axis] ∧ sides = axisSides e.side ∧
    common? es e.variant e.box Side.all = none

theorem enters_pair {es : List ScaleSide} {variant : String} {box : Box} (s : Side) {i : Nat}
    {r : Option String} :
    ((joinSides es variant box [s.axis] (axisSides s)).getD .empty).Enters i r ↔
      ∃ e, lastOn? es e.variant e.box e.side = some e ∧ e.index = i ∧ e.variant = variant ∧
        e.box = box ∧ e.side.axis = s.axis ∧
        common? es e.variant e.box (axisSides e.side) = some e.token ∧
        r = e.outcome es [e.side.axis] (axisSides e.side) := by
  rw [enters_joinSides (List.ne_nil_of_mem (mem_axisSides s))]
  constructor
  · rintro ⟨u, hu, e, he, rfl, common, rfl⟩
    obtain ⟨-, rfl, rfl, rfl⟩ := of_lastOn? he
    have axis : e.side.axis = s.axis := mem_axisSides_iff.mp hu
    rw [← axisSides_congr axis] at common ⊢
    exact ⟨e, he, rfl, rfl, rfl, axis, common, by rw [axis]⟩
  · rintro ⟨e, he, rfl, rfl, rfl, axis, common, rfl⟩
    rw [axisSides_congr axis] at common ⊢
    exact ⟨e.side, mem_axisSides_iff.mpr axis, e, he, rfl, common, by rw [axis]⟩

theorem enters_groupEdits {es : List ScaleSide} {group : String × Box} {i : Nat}
    {r : Option String} : (groupEdits es group).Enters i r ↔
      ∃ e letters sides, e.index = i ∧ (e.variant, e.box) = group ∧ GoesInto es e letters sides ∧
        r = e.outcome es letters sides := by
  obtain ⟨variant, box⟩ := group
  unfold groupEdits
  dsimp only
  cases h : joinSides es variant box [] Side.all with
  | some edits =>
    have same : edits = (joinSides es variant box [] Side.all).getD .empty := by
      rw [h, Option.getD_some]
    dsimp only
    rw [same, enters_joinSides (List.ne_nil_of_mem (mem_all .top))]
    constructor
    · rintro ⟨s, -, e, he, rfl, common, rfl⟩
      obtain ⟨-, rfl, rfl, rfl⟩ := of_lastOn? he
      exact ⟨e, [], Side.all, rfl, rfl, ⟨he, common, .inl ⟨rfl, rfl⟩⟩, rfl⟩
    · rintro ⟨e, letters, sides, rfl, g, into, rfl⟩
      obtain ⟨rfl, rfl⟩ := Prod.mk.inj g
      rcases into.which with ⟨rfl, rfl⟩ | ⟨-, -, apart⟩
      · exact ⟨e.side, mem_all _, e, into.last, rfl, into.common, rfl⟩
      · rw [joinSides, apart] at h
        cases h
  | none =>
    have apart : common? es variant box Side.all = none := Option.map_eq_none_iff.mp h
    dsimp only
    rw [Edits.enters_add]
    refine (or_congr (enters_pair .left) (enters_pair .top)).trans ⟨?_, ?_⟩
    · rintro (⟨e, he, rfl, rfl, rfl, -, common, rfl⟩ | ⟨e, he, rfl, rfl, rfl, -, common, rfl⟩) <;>
        exact ⟨e, _, _, rfl, rfl, ⟨he, common, .inr ⟨rfl, rfl, apart⟩⟩, rfl⟩
    · rintro ⟨e, letters, sides, rfl, g, into, rfl⟩
      obtain ⟨rfl, rfl⟩ := Prod.mk.inj g
      rcases into.which with ⟨rfl, rfl⟩ | ⟨rfl, rfl, -⟩
      · have common := into.common
        rw [apart] at common
        cases common
      have axis : e.side.axis = Side.left.axis ∨ e.side.axis = Side.top.axis := by
        cases e.side <;> decide
      exact axis.imp (fun axis => ⟨e, into.last, rfl, rfl, rfl, axis, into.common, rfl⟩)
        fun axis => ⟨e, into.last, rfl, rfl, rfl, axis, into.common, rfl⟩

/-! ## the order does not matter -/

theorem isSome_equal_of_last {es : List ScaleSide} {e : ScaleSide} {s : Side} :
    ((lastOn? es e.variant e.box s).filter fun o => o.token = e.token).isSome = true ↔
      (lastOn? es e.variant e.box s).map ScaleSide.token = some e.token := by
  cases lastOn? es e.variant e.box s <;> simp [Option.filter]

theorem equal_eq_of_common {es : List ScaleSide} {e : ScaleSide} {sides : List Side} {s : Side}
    (h : common? es e.variant e.box sides = some e.token) (hs : s ∈ sides) :
    ∃ o, lastOn? es e.variant e.box s = some o ∧
      (lastOn? es e.variant e.box s).filter (fun o => o.token = e.token) = some o := by
  obtain ⟨o, ho, token⟩ := Option.map_eq_some_iff.mp ((common?_eq_some_iff hs).mp h s hs)
  exact ⟨o, ho, Option.filter_eq_some_iff.mpr ⟨ho, decide_eq_true token⟩⟩

theorem scaleSide?_of_entry {classes : List String} {c : String} {i : Nat}
    (hx : (c, i) ∈ classes.zipIdx) {e : ScaleSide} (he : e ∈ entries classes) (hi : e.index = i) :
    scaleSide? (c, i) = some e := by
  obtain ⟨d, hd, hs, scale⟩ := mem_entries_iff.mp he
  rw [hi] at hd
  obtain rfl : d = c := Option.some.inj
    ((List.mk_mem_zipIdx_iff_getElem?.mp hd).symm.trans (List.mk_mem_zipIdx_iff_getElem?.mp hx))
  exact scaleSide?_eq_some_iff.mpr ⟨hi, hs, scale⟩

/-- two entries at one place are one -/
theorem entry_unique {classes : List String} {e o : ScaleSide} (he : e ∈ entries classes)
    (ho : o ∈ entries classes) (same : o.index = e.index) : o = e := by
  obtain ⟨c, hc, -, -⟩ := mem_entries_iff.mp he
  exact Option.some.inj
    ((scaleSide?_of_entry hc ho same).symm.trans (scaleSide?_of_entry hc he rfl))

section
variable {classes : List String} {c : String} {i : Nat} {e : ScaleSide}
  (he : scaleSide? (c, i) = some e)
include he

theorem joined_of_goesInto {letters : List Char} {sides : List Side}
    (into : GoesInto (entries classes) e letters sides) :
    joined (entries classes) (c, i) = e.outcome (entries classes) letters sides := by
  unfold joined
  rw [he]
  dsimp only
  rw [into.last, Option.map_some, if_neg fun ne => ne rfl]
  rcases into.which with ⟨rfl, rfl⟩ | ⟨rfl, rfl, apart⟩
  · have four (s : Side) := equal_eq_of_common into.common (mem_all s)
    have length : (Side.all.filterMap fun s =>
        (lastOn? (entries classes) e.variant e.box s).filter fun o => o.token = e.token).length
          = 4 := by
      rw [length_filterMap_all]
      intro s
      obtain ⟨o, -, ho⟩ := four s
      rw [ho]
      rfl
    have first : ((Side.all.filterMap fun s =>
        (lastOn? (entries classes) e.variant e.box s).filter fun o => o.token = e.token).all
          fun o => e.index ≤ o.index) = Side.all.all fun s =>
        (lastOn? (entries classes) e.variant e.box s).all fun o => e.index ≤ o.index := by
      rw [List.all_filterMap]
      refine List.all_congr rfl fun s => ?_
      obtain ⟨o, hl, ho⟩ := four s
      rw [ho, hl]
      rfl
    rw [if_pos length, first, ScaleSide.outcome, e.toClass_spelled]
  · have notFour : (Side.all.filterMap fun s =>
        (lastOn? (entries classes) e.variant e.box s).filter fun o => o.token = e.token).length
          ≠ 4 := by
      rw [Ne, length_filterMap_all]
      intro all
      have common := (common?_eq_some_iff (mem_all .top)).mpr fun s _ =>
        isSome_equal_of_last.mp (all s)
      rw [apart] at common
      cases common
    obtain ⟨o, hl, ho⟩ := equal_eq_of_common into.common
      (mem_axisSides_iff.mpr (by cases e.side <;> rfl : e.side.opposite.axis = e.side.axis))
    have first : ((axisSides e.side).all fun s =>
        (lastOn? (entries classes) e.variant e.box s).all fun o => e.index ≤ o.index)
          = decide (e.index < o.index) := by
      obtain ⟨ho', hv, hb, hs⟩ := of_lastOn? hl
      have ne : o.index ≠ e.index := by
        intro same
        rw [entry_unique (of_lastOn? into.last).1 ho' same] at hs
        revert hs
        cases e.side <;> decide
      rw [Bool.eq_iff_iff, List.all_eq_true, forall_axisSides, into.last, hl]
      simp only [Option.all_some, decide_eq_true_eq]
      omega
    rw [if_neg notFour, ho, ScaleSide.outcome, first, e.toClass_spelled]
    simp only [decide_eq_true_eq]

theorem joined_of_not_goesInto (hx : (c, i) ∈ classes.zipIdx)
    (apart : ∀ letters sides, ¬ GoesInto (entries classes) e letters sides) :
    joined (entries classes) (c, i) = some c := by
  unfold joined
  rw [he]
  dsimp only
  split
  · rfl
  · next last =>
    obtain ⟨o, ho, index⟩ := Option.map_eq_some_iff.mp (not_not.mp last)
    obtain rfl := entry_unique (mem_entries_of_scaleSide? hx he) (of_lastOn? ho).1 index
    have notFour : common? (entries classes) o.variant o.box Side.all ≠ some o.token :=
      fun common => apart _ _ ⟨ho, common, .inl ⟨rfl, rfl⟩⟩
    have length : (Side.all.filterMap fun s =>
        (lastOn? (entries classes) o.variant o.box s).filter fun e => e.token = o.token).length
          ≠ 4 := by
      rw [Ne, length_filterMap_all]
      exact fun all => notFour ((common?_eq_some_iff (mem_all .top)).mpr fun s _ =>
        isSome_equal_of_last.mp (all s))
    have none : (lastOn? (entries classes) o.variant o.box o.side.opposite).filter
        (fun e => e.token = o.token) = none := by
      rw [← Option.not_isSome_iff_eq_none, isSome_equal_of_last]
      intro equal
      have common := (common?_eq_some_iff (mem_axisSides o.side)).mpr
        ((forall_axisSides o.side).mpr ⟨by rw [ho, Option.map_some], equal⟩)
      refine apart _ _ ⟨ho, common, .inr ⟨rfl, rfl, ?_⟩⟩
      cases other : common? (entries classes) o.variant o.box Side.all with
      | none => rfl
      | some t =>
        have token := (common?_eq_some_iff (mem_all o.side)).mp other o.side (mem_all o.side)
        rw [ho, Option.map_some] at token
        exact absurd (other.trans token.symm) notFour
    rw [if_neg length, none]

end

/-- Entered group after group, in whatever order they come, the joined
classes are those of `consolidate`. -/
theorem consolidateIn_eq {order : List (String × Box)} {classes : List String}
    (visited : ∀ e ∈ entries classes, (e.variant, e.box) ∈ order) :
    consolidateIn order classes = consolidate classes := by
  unfold consolidateIn consolidate
  dsimp only
  generalize hedits : order.foldl (fun edits group => edits.add (groupEdits (entries classes) group))
    Edits.empty = edits
  have entered {i : Nat} {r : Option String} : edits.Enters i r ↔ ∃ e letters sides,
      e.index = i ∧ (e.variant, e.box) ∈ order ∧ GoesInto (entries classes) e letters sides ∧
        r = e.outcome (entries classes) letters sides := by
    rw [← hedits, Edits.enters_foldl, or_iff_right (Edits.not_enters_empty i r)]
    simp only [enters_groupEdits]
    constructor
    · rintro ⟨g, hg, e, letters, sides, hi, rfl, into, hr⟩
      exact ⟨e, letters, sides, hi, hg, into, hr⟩
    · rintro ⟨e, letters, sides, hi, hg, into, hr⟩
      exact ⟨_, hg, e, letters, sides, hi, rfl, into, hr⟩
  change classes.zipIdx.filterMap edits.apply = classes.zipIdx.filterMap (joined (entries classes))
  refine List.filterMap_congr ?_
  rintro ⟨c, i⟩ hx
  have outcome {r : Option String} (h : edits.Enters i r) : joined (entries classes) (c, i) = r := by
    obtain ⟨e, letters, sides, hi, -, into, rfl⟩ := entered.mp h
    exact joined_of_goesInto (scaleSide?_of_entry hx (of_lastOn? into.last).1 hi) into
  by_cases h : ∃ r, edits.Enters i r
  · obtain ⟨r, h⟩ := h
    rw [outcome h, Edits.apply_of_enters h fun r' h' => (outcome h').symm.trans (outcome h)]
  · rw [not_exists] at h
    rw [Edits.apply_of_not_enters h]
    cases he : scaleSide? (c, i) with
    | none => rw [joined, he]
    | some e =>
      refine (joined_of_not_goesInto he hx fun letters sides into => ?_).symm
      have mem := (of_lastOn? into.last).1
      exact h _ (entered.mpr ⟨e, letters, sides, (scaleSide?_eq_some_iff.mp he).1,
        visited e mem, into, rfl⟩)

/-! ## separate sides -/

/-- each side has one class at most, and a side with a class has no shorthand over it -/
structure Separate (classes : List String) : Prop where
  single : SingleSides classes
  uncovered : ∀ st ∈ settings classes, ∀ s ∈ (sidesOf? st.letters).getD [],
    ∀ own ∈ settings classes, own.variant = st.variant → own.box = st.box → own.letters ≠ [s.letter]

/-- the class at a place gives a side a token of the scale -/
structure Carries (classes : List String) (i : Nat) (variant : String) (box : Box) (s : Side)
    (t : String) : Prop where
  place : classes[i]? = some (sideClass variant "" box s t)
  variant : variantOf (sideClass variant "" box s t) = variant
  scale : (Utility.scalePx? t).isSome = true

theorem carries_iff {classes : List String} {i : Nat} {variant t : String} {box : Box} {s : Side} :
    Carries classes i variant box s t ↔ ⟨i, variant, box, s, t⟩ ∈ entries classes := by
  have read (c : String) : setting? c = some ⟨variant, "", box, [s.letter], t⟩ ↔
      variantOf c = variant ∧ c = sideClass variant "" box s t := by
    rw [sideClass_eq_toClass]
    exact setting?_eq_some_iff_toClass (.inl rfl) (dash_not_mem (mem_spellings_of_side s))
  rw [mem_entries_iff]
  constructor
  · intro h
    exact ⟨_, List.mk_mem_zipIdx_iff_getElem?.mpr h.place, (read _).mpr ⟨h.variant, rfl⟩, h.scale⟩
  · rintro ⟨c, hc, hs, scale⟩
    obtain ⟨hv, rfl⟩ := (read c).mp hs
    exact ⟨List.mk_mem_zipIdx_iff_getElem?.mp hc, hv, scale⟩

/-- what becomes of the class at a place when equal sides are joined -/
inductive Becomes (classes : List String) (i : Nat) (c : String) : Option String → Prop where
  /-- the first of four equal classes becomes the one for all sides -/
  | plain {variant t : String} {box : Box} {s : Side} (own : Carries classes i variant box s t)
      (four : ∀ u, ∃ j, i ≤ j ∧ Carries classes j variant box u t) :
      Becomes classes i c (some (variant ++ String.ofList [box.letter] ++ "-" ++ t))
  /-- the other three go -/
  | intoPlain {variant t : String} {box : Box} {s u : Side} {k : Nat}
      (own : Carries classes i variant box s t)
      (four : ∀ u, ∃ j, Carries classes j variant box u t)
      (before : k < i) (earlier : Carries classes k variant box u t) : Becomes classes i c none
  /-- the first of two equal classes becomes the one for their axis -/
  | axis {variant t : String} {box : Box} {s : Side} {j : Nat}
      (own : Carries classes i variant box s t)
      (notFour : ¬ ∀ u, ∃ j, Carries classes j variant box u t)
      (opposite : Carries classes j variant box s.opposite t) (before : i < j) :
      Becomes classes i c (some (variant ++ String.ofList [box.letter, s.axis] ++ "-" ++ t))
  /-- the second goes -/
  | intoAxis {variant t : String} {box : Box} {s : Side} {j : Nat}
      (own : Carries classes i variant box s t)
      (notFour : ¬ ∀ u, ∃ j, Carries classes j variant box u t)
      (opposite : Carries classes j variant box s.opposite t) (before : j < i) :
      Becomes classes i c none
  /-- any other class stays -/
  | stays (apart : ∀ variant box s t, Carries classes i variant box s t →
      ¬ ∃ j, Carries classes j variant box s.opposite t) : Becomes classes i c (some c)

theorem exists_becomes {classes : List String} {c : String} {i : Nat}
    (hx : (c, i) ∈ classes.zipIdx) : ∃ r, Becomes classes i c r := by
  cases he : scaleSide? (c, i) with
  | none =>
    refine ⟨some c, .stays fun variant box s t own => ?_⟩
    rw [scaleSide?_of_entry hx (carries_iff.mp own) rfl] at he
    cases he
  | some e =>
    obtain ⟨k, variant, box, s, t⟩ := e
    obtain rfl : k = i := (scaleSide?_eq_some_iff.mp he).1
    have own : Carries classes k variant box s t := carries_iff.mpr (mem_entries_of_scaleSide? hx he)
    by_cases four : ∀ u, ∃ j, Carries classes j variant box u t
    · by_cases earlier : ∃ u j, j < k ∧ Carries classes j variant box u t
      · obtain ⟨u, j, before, earlier⟩ := earlier
        exact ⟨none, .intoPlain own four before earlier⟩
      · refine ⟨_, .plain own fun u => (four u).imp fun j hj => ⟨?_, hj⟩⟩
        exact Nat.le_of_not_lt fun before => earlier ⟨u, j, before, hj⟩
    by_cases opposite : ∃ j, Carries classes j variant box s.opposite t
    · obtain ⟨j, opposite⟩ := opposite
      rcases Nat.lt_or_gt_of_ne (index_ne (carries_iff.mp own) (carries_iff.mp opposite)) with lt | lt
      · exact ⟨_, .axis own four opposite lt⟩
      · exact ⟨none, .intoAxis own four opposite lt⟩
    · refine ⟨some c, .stays fun variant' box' s' t' own' => ?_⟩
      have same := he.symm.trans (scaleSide?_of_entry hx (carries_iff.mp own') rfl)
      obtain ⟨-, rfl, rfl, rfl, rfl⟩ := ScaleSide.mk.inj (Option.some.inj same)
      exact opposite

section
variable {classes : List String} (hS : SingleSides classes)
include hS

theorem four_iff {variant t : String} {box : Box} :
    (∀ u, ∃ j, Carries classes j variant box u t) ↔ ∀ u, Level classes variant box u t := by
  simp only [carries_iff, level_iff hS]

theorem joined_of_becomes {c : String} {i : Nat} {r : Option String} (hx : (c, i) ∈ classes.zipIdx)
    (h : Becomes classes i c r) : joined (entries classes) (c, i) = r := by
  cases h with
  | plain own four =>
    have he := scaleSide?_of_entry hx (carries_iff.mp own) rfl
    rw [joined_of_first hS hx he ((four_iff hS).mp fun u => (four u).imp fun _ h => h.2),
      ScaleSide.toClass_spelled]
    rintro o ho hv hb
    obtain ⟨j, le, hj⟩ := four o.side
    rw [hS.unique_entry (carries_iff.mp hj) ho hv hb rfl]
    exact le
  | intoPlain own four before earlier =>
    exact joined_of_later hS hx (scaleSide?_of_entry hx (carries_iff.mp own) rfl) ((four_iff hS).mp four)
      (carries_iff.mp earlier) rfl rfl before
  | axis own notFour opposite before =>
    rw [joined_of_pair hS hx (scaleSide?_of_entry hx (carries_iff.mp own) rfl) (mt (four_iff hS).mpr notFour)
      (carries_iff.mp opposite), if_pos before, ScaleSide.toClass_spelled]
  | intoAxis own notFour opposite before =>
    rw [joined_of_pair hS hx (scaleSide?_of_entry hx (carries_iff.mp own) rfl) (mt (four_iff hS).mpr notFour)
      (carries_iff.mp opposite), if_neg (Nat.not_lt_of_lt before)]
  | stays apart =>
    cases he : scaleSide? (c, i) with
    | none => rw [joined, he]
    | some e =>
      have own := mem_entries_of_scaleSide? hx he
      obtain rfl := (scaleSide?_eq_some_iff.mp he).1
      refine joined_of_apart hS hx he fun level => apart _ _ _ _ (carries_iff.mpr own) ?_
      simpa only [carries_iff] using (level_iff hS).mp level

theorem joined_iff_becomes {c : String} {i : Nat} {r : Option String}
    (hx : (c, i) ∈ classes.zipIdx) :
    joined (entries classes) (c, i) = r ↔ Becomes classes i c r := by
  refine ⟨?_, joined_of_becomes hS hx⟩
  rintro rfl
  obtain ⟨r, h⟩ := exists_becomes hx
  rw [joined_of_becomes hS hx h]
  exact h

end

namespace Separate
variable {classes : List String} (hS : Separate classes)
include hS

/-- no shorthand stands over a side that has a class -/
theorem last?_eq_none {variant : String} {box : Box} {s : Side}
    (own : last? classes variant box [s.letter] ≠ none) {letters : List Char}
    (covers : s ∈ (sidesOf? letters).getD []) : last? classes variant box letters = none := by
  obtain ⟨⟨sign, value⟩, hl⟩ := Option.ne_none_iff_exists'.mp own
  obtain ⟨side, hside, hat⟩ := exists_of_lastBy hl
  obtain rfl := Setting.at?_eq_some_iff.mp hat
  refine lastBy_eq_none_iff.mpr fun st hst => if_neg ?_
  rintro ⟨rfl, rfl, rfl⟩
  exact hS.uncovered st hst s covers _ hside rfl rfl rfl

omit hS in
theorem single_of_none {variant : String} {box : Box} {letters : List Char}
    (none : last? classes variant box letters = none) : Single classes variant box letters :=
  fun _ _ _ _ _ _ _ _ hc _ hs _ => absurd none (last?_ne_none hc hs)

theorem effective?_consolidate (variant : String) (box : Box) (s : Side) :
    effective? (consolidate classes) variant box s = effective? classes variant box s := by
  by_cases pair : ∃ t, Level classes variant box s t ∧ Level classes variant box s.opposite t
  · obtain ⟨t, hs, ho⟩ := pair
    have own : last? classes variant box [s.letter] ≠ none := by
      rw [hs.1]
      exact Option.some_ne_none _
    have axis : last? classes variant box [s.axis] = none :=
      hS.last?_eq_none own (by cases s <;> decide)
    have before : effective? classes variant box s = some ("", t) := by
      rw [effective?, hs.1, Option.some_or]
    rw [before]
    by_cases four : ∀ u, Level classes variant box u t
    · have bare : last? classes variant box [] = none :=
        hS.last?_eq_none own (by cases s <;> decide)
      rw [effective?_of_four hS.single four bare, axis, Option.none_or]
    · obtain ⟨a, -, after⟩ := effective?_of_pair hS.single (single_of_none axis) hs ho four
      rw [after, if_neg fun last => last?_ne_none_of_among last axis]
  · exact effective?_of_apart hS.single fun t hs ho => pair ⟨t, hs, ho⟩

end Separate

/-- **Equal sides are joined.**  Among separate sides the four classes of a box with one token of the
scale, or else the two of an axis, become one class where the first of them stood; every other class
stays, all in their order, whatever the order of the groups; and each side keeps its spacing. -/
theorem consolidate_joins {classes : List String} {order : List (String × Box)}
    (separate : Separate classes)
    (visited : ∀ e ∈ entries classes, (e.variant, e.box) ∈ order) :
    (∃ becomes, consolidateIn order classes = classes.zipIdx.filterMap becomes ∧
      ∀ c i, (c, i) ∈ classes.zipIdx → ∀ r, becomes (c, i) = r ↔ Becomes classes i c r) ∧
    consolidateIn order classes = consolidate classes ∧
    ∀ variant box s, effective? (consolidateIn order classes) variant box s
      = effective? classes variant box s := by
  rw [consolidateIn_eq visited]
  exact ⟨⟨joined (entries classes), rfl, fun c i hx r => joined_iff_becomes separate.single hx⟩,
    rfl, separate.effective?_consolidate⟩

theorem consolidate_joins_box_and_axis :
    let classes := ["pt-2", "mr-4", "flex", "pr-2", "md:-pl-2", "pb-2", "ml-4", "pl-2", "mt-[3px]"]
    let order := [("", Box.margin), ("", Box.padding)]
    Separate classes ∧ (∀ e ∈ entries classes, (e.variant, e.box) ∈ order) ∧
      consolidateIn order classes = ["p-2", "mx-4", "flex", "md:-pl-2", "mt-[3px]"] ∧
      effective? (consolidateIn order classes) "" .margin .left = some ("", "4") := by
  intro classes order
  have separate : Separate classes :=
    ⟨Distinct.singleSides (by unfold Distinct; decide +kernel), by decide +kernel⟩
  have visited : ∀ e ∈ entries classes, (e.variant, e.box) ∈ order := by decide +kernel
  obtain ⟨-, same, keeps⟩ := consolidate_joins separate visited
  exact ⟨separate, visited, same.trans (by decide +kernel),
    (keeps "" .margin .left).trans (by decide +kernel)⟩

end Handoff.ClassList
