import Handoff.Proofs.ClassList.Joined

/-!
# What cleaning up does to spacing

`cleanSpacing` takes shorthands apart where a side is set on its own, drops what a later class of
the same group replaces, and joins equal sides again.  A side that is not set on its own can change
its spacing by this: a class for all sides that is taken apart comes before one for the axis, which
it did not do before.

* `remaining?`              what is left for a side once the shorthands are taken apart;
* `effective?_cleanSpacing_of_whole`, `_of_owned`, `_of_free`   the spacing of a side afterwards;
* `Undisturbed`             where this is the spacing from before;
* `effective?_cleanSpacing_eq_iff`   there and nowhere else.
-/

namespace Handoff.ClassList

/-- the steps that `finalize` takes for padding and margins, apart from snapping -/
def cleanSpacing (classes : List String) : List String :=
  consolidate (dedupe (expandOverridden classes))

/-- some class counts as one that sets the side on its own; any number of minus signs may lead it -/
def owned (classes : List String) (variant : String) (box : Box) (s : Side) : Bool :=
  (classes.filterMap ownSide?).contains (variant, box, s)

/-- sign and value of the last shorthand over a side -/
def lastOver? (classes : List String) (variant : String) (box : Box) (s : Side) :
    Option (String × String) :=
  lastBy (fun st => (st.at? variant box [s.axis]).or (st.at? variant box [])) (settings classes)

/-- of the shorthands over a side the one for its axis is the last -/
def AxisLast (classes : List String) (variant : String) (box : Box) (s : Side) : Prop :=
  lastBy (Setting.among? variant box [[s.axis], []]) (settings classes) = some [s.axis]

/-- what the classes for one side say once shorthands are taken apart, if any side is set on its
own -/
def remaining? (classes : List String) (variant : String) (box : Box) (s : Side) :
    Option (String × String) :=
  if owned classes variant box s then last? classes variant box [s.letter]
  else if owned classes variant box s.opposite then lastOver? classes variant box s
  else last? classes variant box []

/-! ## taken apart -/

section
variable (classes : List String) (variant : String) (box : Box) (s : Side)

theorem last?_dedupe {letters : List Char} (h : letters ∈ spellings) :
    last? (dedupe classes) variant box letters = last? classes variant box letters :=
  lastBy_settings_dedupe (byGroup_at? variant box h) classes

theorem lastBy_expandOverridden {β : Type} (f : Setting → Option β) :
    lastBy f (settings (expandOverridden classes)) =
      lastBy (fun st => lastBy f (st.expand (classes.filterMap ownSide?))) (settings classes) := by
  rw [settings_expandOverridden, lastBy_flatMap]

/-- a side that is not owned has no class -/
theorem at?_side_eq_none (h : owned classes variant box s = false) :
    ∀ st ∈ settings classes, st.at? variant box [s.letter] = none := by
  intro st hst
  refine if_neg fun e => ?_
  obtain ⟨rfl, rfl, hl⟩ := e
  obtain ⟨c, hc, hs⟩ := List.mem_filterMap.mp hst
  have mem : (st.variant, st.box, s) ∈ classes.filterMap ownSide? :=
    List.mem_filterMap.mpr ⟨c, hc, ownSide?_of_setting hs hl⟩
  rw [owned, List.contains_iff_mem.mpr mem] at h
  cases h

theorem last?_side_eq_none (h : owned classes variant box s = false) :
    last? classes variant box [s.letter] = none :=
  lastBy_eq_none_iff.mpr (at?_side_eq_none classes variant box s h)

theorem last?_wide_expand {letters : List Char} {sides : List Side}
    (h : sidesOf? letters = some sides) :
    last? (expandOverridden classes) variant box letters =
      if sides.any (owned classes variant box) then none
      else last? classes variant box letters := by
  rw [last?, lastBy_expandOverridden]
  simp only [lastBy_wide_expand _ variant box h]
  change lastBy (fun st => if sides.any (owned classes variant box) then none
    else st.at? variant box letters) (settings classes) = _
  split
  · exact lastBy_eq_none_iff.mpr fun _ _ => rfl
  · rfl

theorem last?_plain_expand :
    last? (expandOverridden classes) variant box [] =
      if Side.all.any (owned classes variant box) then none else last? classes variant box [] :=
  last?_wide_expand classes variant box rfl

theorem last?_axis_expand :
    last? (expandOverridden classes) variant box [s.axis] =
      if owned classes variant box s || owned classes variant box s.opposite then none
      else last? classes variant box [s.axis] := by
  obtain ⟨sides, h⟩ : ∃ sides, sidesOf? [s.axis] = some sides := by cases s <;> exact ⟨_, rfl⟩
  rw [last?_wide_expand classes variant box h, any_sides_of_axis h]

theorem last?_side_expand :
    last? (expandOverridden classes) variant box [s.letter] =
      if Side.all.any (owned classes variant box) then remaining? classes variant box s
      else none := by
  rw [last?, lastBy_expandOverridden]
  simp only [lastBy_side_expand _ variant box s]
  change lastBy (fun st => (st.at? variant box [s.letter]).or
    (if owned classes variant box s then none
    else (if owned classes variant box s.opposite then st.at? variant box [s.axis] else none).or
      (if Side.all.any (owned classes variant box) then st.at? variant box [] else none)))
    (settings classes) = _
  have touched (u : Side) (hu : owned classes variant box u = true) :
      Side.all.any (owned classes variant box) = true :=
    List.any_eq_true.mpr ⟨u, by cases u <;> decide, hu⟩
  unfold remaining?
  cases hs : owned classes variant box s with
  | true =>
    simp only [touched s hs, if_true, Option.or_none]
    rfl
  | false =>
    rw [lastBy_congr fun st hst => by rw [at?_side_eq_none classes variant box s hs st hst]]
    cases ho : owned classes variant box s.opposite with
    | true =>
      simp [touched _ ho, lastOver?]
    | false =>
      cases Side.all.any (owned classes variant box) with
      | true => simp [last?]
      | false => simp [lastBy_eq_none_iff]

/-- between a class for a side and one for its axis the order is that of the shorthands -/
theorem lastBy_among_expandOverridden {a : Side} (ha : owned classes variant box a = false)
    (ho : owned classes variant box a.opposite = false)
    (touched : Side.all.any (owned classes variant box) = true) :
    lastBy (Setting.among? variant box [[a.axis], [a.letter]])
        (settings (expandOverridden classes)) = some [a.axis] ↔
      AxisLast classes variant box a := by
  rw [lastBy_expandOverridden]
  simp only [lastBy_among_expand _ variant box ha ho touched]
  have narrow (st : Setting) (hst : st ∈ settings classes) :
      st.among? variant box [[a.axis], [], [a.letter]] = st.among? variant box [[a.axis], []] := by
    have none := at?_side_eq_none classes variant box a ha st hst
    unfold Setting.at? at none
    unfold Setting.among?
    by_cases same : st.variant = variant ∧ st.box = box
    · have other : st.letters ≠ [a.letter] := by
        intro e
        rw [if_pos ⟨same.1, same.2, e⟩] at none
        cases none
      simp [same, other]
    · simp only [← and_assoc, same, false_and]
  rw [lastBy_map, lastBy_congr narrow, Option.map_eq_some_iff, AxisLast]
  constructor
  · rintro ⟨letters, h, e⟩
    split at e
    · exact absurd e (side_letter_ne_axis a a)
    · rw [h, e]
  · exact fun h => ⟨_, h, if_neg (List.cons_ne_nil _ _)⟩

end

/-! ## all three steps -/

/-- a class for all sides that goes back into the shorthand for the axis, or into one for all sides:
it is on the scale, and the axis comes after it, or all sides are left with it -/
structure Rejoined (classes : List String) (variant : String) (box : Box) (s : Side) : Prop where
  onScale : ∃ t, last? classes variant box [] = some ("", t) ∧
    (Utility.scalePx? t).isSome = true
  place : AxisLast classes variant box s ∨
    ∀ u, remaining? classes variant box u = last? classes variant box []

/-- what equal sides are looked for in -/
def settled (classes : List String) : List String := dedupe (expandOverridden classes)

theorem cleanSpacing_eq (classes : List String) :
    cleanSpacing classes = consolidate (settled classes) :=
  rfl

theorem distinct_settled (classes : List String) : Distinct (settled classes) :=
  distinct_dedupe _

section
variable (classes : List String) (variant : String) (box : Box) (s : Side)

theorem last?_side_settled :
    last? (settled classes) variant box [s.letter] =
      if Side.all.any (owned classes variant box) then remaining? classes variant box s
      else none := by
  rw [settled, last?_dedupe _ _ _ (mem_spellings_of_side s), last?_side_expand]

theorem last?_axis_settled :
    last? (settled classes) variant box [s.axis] =
      if owned classes variant box s || owned classes variant box s.opposite then none
      else last? classes variant box [s.axis] := by
  rw [settled, last?_dedupe _ _ _ (mem_spellings_of_axis s), last?_axis_expand]

theorem last?_plain_settled :
    last? (settled classes) variant box [] =
      if Side.all.any (owned classes variant box) then none else last? classes variant box [] := by
  rw [settled, last?_dedupe _ _ _ (by decide), last?_plain_expand]

variable {classes variant box s}

theorem any_owned (h : owned classes variant box s = true) :
    Side.all.any (owned classes variant box) = true :=
  List.any_eq_true.mpr ⟨s, by cases s <;> decide, h⟩

/-- where no side is set on its own nothing happens -/
theorem effective?_cleanSpacing_of_whole
    (whole : Side.all.any (owned classes variant box) = false) :
    effective? (cleanSpacing classes) variant box s = effective? classes variant box s := by
  have free (u : Side) : owned classes variant box u = false := by
    cases h : owned classes variant box u with
    | false => rfl
    | true => rw [any_owned h] at whole; cases whole
  have noSide (u : Side) :
      last? (settled classes) variant box [u.letter] = none := by
    rw [last?_side_settled, whole]
    rfl
  have apart (t : String)
      (h : Level (settled classes) variant box s t) :
      ¬ Level (settled classes) variant box s.opposite t := by
    rw [Level, noSide] at h
    cases h.1
  rw [cleanSpacing_eq, effective?_of_apart (distinct_settled _).singleSides apart, effective?,
    effective?, noSide, last?_side_eq_none _ _ _ _ (free s), last?_axis_settled,
    last?_plain_settled, whole, free, free]
  rfl

/-- a side of an axis on which a side is set on its own gets what is left for it -/
theorem effective?_cleanSpacing_of_owned
    (h : (owned classes variant box s || owned classes variant box s.opposite) = true) :
    effective? (cleanSpacing classes) variant box s = remaining? classes variant box s := by
  have touched : Side.all.any (owned classes variant box) = true := by
    rcases Bool.or_eq_true_iff.mp h with h | h <;> exact any_owned h
  have hD := distinct_settled classes
  have side := last?_side_settled classes variant box s
  have axis := last?_axis_settled classes variant box s
  have plain := last?_plain_settled classes variant box
  rw [touched, if_pos rfl] at side plain
  rw [h, if_pos rfl] at axis
  rw [cleanSpacing_eq]
  by_cases pair : ∃ t, Level (settled classes) variant box s t ∧
      Level (settled classes) variant box s.opposite t
  · obtain ⟨t, hs, ho⟩ := pair
    rw [← side, hs.1]
    by_cases four : ∀ w, Level (settled classes) variant box w t
    · rw [effective?_of_four hD.singleSides four plain, axis, Option.none_or]
    · obtain ⟨a, -, e⟩ := effective?_of_pair hD.singleSides
        (hD.single _ _ (mem_spellings_of_axis s)) hs ho four
      rw [e, if_neg fun last => last?_ne_none_of_among last axis]
  · rw [effective?_of_apart hD.singleSides fun t hs ho => pair ⟨t, hs, ho⟩, effective?, axis,
      plain, side, Option.or_none, Option.or_none]

/-- on an axis without a side that is set on its own, the class for the axis still takes effect if
the one for all sides is joined again; otherwise the latter comes before it -/
theorem effective?_cleanSpacing_of_free (hs : owned classes variant box s = false)
    (ho : owned classes variant box s.opposite = false)
    (touched : Side.all.any (owned classes variant box) = true) :
    (Rejoined classes variant box s ∧ effective? (cleanSpacing classes) variant box s =
      (last? classes variant box [s.axis]).or (last? classes variant box [])) ∨
    (¬ Rejoined classes variant box s ∧ effective? (cleanSpacing classes) variant box s =
      (last? classes variant box []).or (last? classes variant box [s.axis])) := by
  have hD := distinct_settled classes
  have side (u : Side) := last?_side_settled classes variant box u
  have axis := last?_axis_settled classes variant box s
  have plain := last?_plain_settled classes variant box
  simp only [touched, if_true] at side plain
  rw [hs, ho, Bool.or_false, if_neg Bool.false_ne_true] at axis
  have left : remaining? classes variant box s = last? classes variant box [] := by
    simp [remaining?, hs, ho]
  have left' : remaining? classes variant box s.opposite = last? classes variant box [] := by
    simp [remaining?, hs, ho, opposite_opposite]
  have order (a : Side) (ha : a = s ∨ a = s.opposite) :
      lastBy (Setting.among? variant box [[s.axis], [a.letter]])
        (settings (settled classes)) = some [s.axis] ↔
      AxisLast classes variant box s := by
    rw [settled, lastBy_settings_dedupe (byGroup_among? variant box (by
      simp [mem_spellings_of_axis, mem_spellings_of_side]))]
    rcases ha with rfl | rfl
    · exact lastBy_among_expandOverridden _ _ _ hs ho touched
    · have same : s.opposite.axis = s.axis := by cases s <;> rfl
      rw [AxisLast, ← same]
      refine lastBy_among_expandOverridden _ _ _ ho ?_ touched
      rw [opposite_opposite]
      exact hs
  rw [cleanSpacing_eq]
  by_cases pair : ∃ t, Level (settled classes) variant box s t ∧
      Level (settled classes) variant box s.opposite t
  · obtain ⟨t, hs, ho⟩ := pair
    have value : last? classes variant box [] = some ("", t) := by
      rw [← left, ← side, hs.1]
    have onScale : ∃ t, last? classes variant box [] = some ("", t) ∧
      (Utility.scalePx? t).isSome = true := ⟨t, value, hs.2⟩
    by_cases four : ∀ w, Level (settled classes) variant box w t
    · refine .inl ⟨⟨onScale, .inr fun u => ?_⟩, ?_⟩
      · rw [← side, (four u).1, value]
      · rw [effective?_of_four hD.singleSides four plain, axis, value]
    obtain ⟨a, ha, e⟩ := effective?_of_pair hD.singleSides
      (hD.single _ _ (mem_spellings_of_axis s)) hs ho four
    rw [e, axis]
    by_cases last : AxisLast classes variant box s
    · have given := last?_ne_none_of_among ((order a ha).mpr last)
      rw [axis] at given
      rw [if_pos ((order a ha).mpr last),
        Option.or_of_isSome (Option.isSome_iff_ne_none.mpr given)]
      exact .inl ⟨⟨onScale, .inl last⟩, rfl⟩
    · rw [if_neg fun h => last ((order a ha).mp h), value]
      refine .inr ⟨fun r => ?_, rfl⟩
      rcases r.place with h | h
      · exact last h
      · exact four fun w => ⟨by rw [side, h, value], hs.2⟩
  · refine .inr ⟨fun r => ?_, ?_⟩
    · obtain ⟨t, value, scale⟩ := r.onScale
      exact pair ⟨t, ⟨by rw [side, left, value], scale⟩, ⟨by rw [side, left', value], scale⟩⟩
    · rw [effective?_of_apart hD.singleSides fun t hs ho => pair ⟨t, hs, ho⟩, effective?, axis,
        plain, side, left, Option.or_none]

end

/-! ## where spacing stays -/

/-- why cleaning up leaves the spacing of a side as it was -/
inductive Undisturbed (classes : List String) (variant : String) (box : Box) (s : Side) : Prop where
  /-- the side has a class -/
  | side (h : last? classes variant box [s.letter] ≠ none)
  /-- it has no shorthand -/
  | bare (axis : last? classes variant box [s.axis] = none)
      (plain : last? classes variant box [] = none)
  /-- no side is set on its own, so that no shorthand is taken apart -/
  | whole (h : ∀ u, owned classes variant box u = false)
  /-- the shorthands of its axis are taken apart, and the last of them is the one that counts -/
  | last (hs : owned classes variant box s = false)
      (ho : owned classes variant box s.opposite = true)
      (h : lastOver? classes variant box s =
        (last? classes variant box [s.axis]).or (last? classes variant box []))
  /-- the shorthand for all sides is taken apart, and the one for the axis agrees with it -/
  | agree (hs : owned classes variant box s = false)
      (ho : owned classes variant box s.opposite = false)
      (h : (last? classes variant box []).or (last? classes variant box [s.axis]) =
        (last? classes variant box [s.axis]).or (last? classes variant box []))
  /-- the shorthand for all sides is taken apart, and joined again -/
  | rejoined (hs : owned classes variant box s = false)
      (ho : owned classes variant box s.opposite = false) (h : Rejoined classes variant box s)

section
variable {classes : List String} {variant : String} {box : Box} {s : Side}

theorem effective?_of_not_owned (hs : owned classes variant box s = false) :
    effective? classes variant box s =
      (last? classes variant box [s.axis]).or (last? classes variant box []) := by
  rw [effective?, last?_side_eq_none _ _ _ _ hs, Option.none_or]

theorem lastOver?_eq_none (axis : last? classes variant box [s.axis] = none)
    (plain : last? classes variant box [] = none) : lastOver? classes variant box s = none := by
  refine lastBy_eq_none_iff.mpr fun st hst => ?_
  rw [lastBy_eq_none_iff.mp axis st hst, lastBy_eq_none_iff.mp plain st hst, Option.none_or]

theorem effective?_cleanSpacing_of_side (hs : owned classes variant box s = true) :
    effective? (cleanSpacing classes) variant box s = last? classes variant box [s.letter] := by
  rw [effective?_cleanSpacing_of_owned (by rw [hs]; rfl), remaining?, if_pos hs]

theorem effective?_cleanSpacing_of_axis (hs : owned classes variant box s = false)
    (ho : owned classes variant box s.opposite = true) :
    effective? (cleanSpacing classes) variant box s = lastOver? classes variant box s := by
  rw [effective?_cleanSpacing_of_owned (by rw [ho, Bool.or_true]), remaining?, hs, ho]
  rfl

theorem Undisturbed.keeps (h : Undisturbed classes variant box s) :
    effective? (cleanSpacing classes) variant box s = effective? classes variant box s := by
  cases touched : Side.all.any (owned classes variant box) with
  | false => exact effective?_cleanSpacing_of_whole touched
  | true =>
  cases h with
  | side own =>
    cases hs : owned classes variant box s with
    | false => exact absurd (last?_side_eq_none _ _ _ _ hs) own
    | true =>
      rw [effective?_cleanSpacing_of_side hs, effective?,
        Option.or_of_isSome (Option.isSome_iff_ne_none.mpr own)]
  | bare axis plain =>
    have before : effective? classes variant box s = last? classes variant box [s.letter] := by
      rw [effective?, axis, plain, Option.or_none, Option.or_none]
    rw [before]
    cases hs : owned classes variant box s with
    | true => exact effective?_cleanSpacing_of_side hs
    | false =>
      rw [last?_side_eq_none _ _ _ _ hs]
      cases ho : owned classes variant box s.opposite with
      | true => rw [effective?_cleanSpacing_of_axis hs ho, lastOver?_eq_none axis plain]
      | false =>
        rcases effective?_cleanSpacing_of_free hs ho touched with ⟨-, e⟩ | ⟨-, e⟩ <;>
          rw [e, axis, plain, Option.none_or]
  | whole free =>
    obtain ⟨u, -, hu⟩ := List.any_eq_true.mp touched
    rw [free u] at hu
    cases hu
  | last hs ho e => rw [effective?_cleanSpacing_of_axis hs ho, e, effective?_of_not_owned hs]
  | agree hs ho e =>
    rw [effective?_of_not_owned hs]
    rcases effective?_cleanSpacing_of_free hs ho touched with ⟨-, e'⟩ | ⟨-, e'⟩
    · exact e'
    · exact e'.trans e
  | rejoined hs ho r =>
    rw [effective?_of_not_owned hs]
    rcases effective?_cleanSpacing_of_free hs ho touched with ⟨-, e⟩ | ⟨r', -⟩
    · exact e
    · exact absurd r r'

theorem undisturbed_of_keeps
    (h : effective? (cleanSpacing classes) variant box s = effective? classes variant box s) :
    Undisturbed classes variant box s := by
  cases touched : Side.all.any (owned classes variant box) with
  | false =>
    refine .whole fun u => ?_
    cases hu : owned classes variant box u with
    | false => rfl
    | true => rw [any_owned hu] at touched; cases touched
  | true =>
  cases hs : owned classes variant box s with
  | true =>
    cases own : last? classes variant box [s.letter] with
    | some p => exact .side (by rw [own]; exact Option.some_ne_none p)
    | none =>
      rw [effective?_cleanSpacing_of_side hs, effective?, own, Option.none_or, eq_comm,
        Option.or_eq_none_iff] at h
      exact .bare h.1 h.2
  | false =>
  rw [effective?_of_not_owned hs] at h
  cases ho : owned classes variant box s.opposite with
  | true => exact .last hs ho ((effective?_cleanSpacing_of_axis hs ho).symm.trans h)
  | false =>
    rcases effective?_cleanSpacing_of_free hs ho touched with ⟨r, -⟩ | ⟨-, e⟩
    · exact .rejoined hs ho r
    · exact .agree hs ho (e.symm.trans h)

end

/-- **Where cleaning up keeps the spacing of a side.**  Taking shorthands apart, dropping what is
replaced and joining equal sides leave the effective spacing of a side as it was exactly where the
side is `Undisturbed`. -/
theorem effective?_cleanSpacing_eq_iff (classes : List String) (variant : String) (box : Box)
    (s : Side) :
    effective? (cleanSpacing classes) variant box s = effective? classes variant box s ↔
      Undisturbed classes variant box s :=
  ⟨undisturbed_of_keeps, Undisturbed.keeps⟩

example : consolidate (dedupe (expandOverridden ["py-2", "pt-[40px]"])) = ["pb-2", "pt-[40px]"] := by
  decide +kernel

/-- the class for the axis gives way to the one for all sides, which is taken apart -/
theorem cleanSpacing_disturbs :
    effective? ["p-[13px]", "px-4", "pt-1"] "" .padding .left = some ("", "4") ∧
      effective? (cleanSpacing ["p-[13px]", "px-4", "pt-1"]) "" .padding .left
        = some ("", "[13px]") := by
  decide +kernel

end Handoff.ClassList
