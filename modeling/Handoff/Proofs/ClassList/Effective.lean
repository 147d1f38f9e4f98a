import Handoff.Proofs.ClassList.Setting
import Mathlib.Data.List.Basic

/-!
# The spacing that takes effect

Of the settings of a class list only the last of each spelling counts, and of these one for a side
comes before one for its axis, and that before one for all sides.

* `settings`            the settings of a class list, in order;
* `lastBy`              what a partial function gives for the last element that it is defined on;
* `effective?`          sign and value that take effect on a side;
* `settings_expandOverridden`, `lastBy_side_expand`, …   what is left of the settings when
                        shorthands give way to sides;
* `lastBy_dedupe`       whatever is said of the last class of a group survives `dedupe`.
-/

namespace Handoff.ClassList

def settings (classes : List String) : List Setting := classes.filterMap setting?

/-! ## last elements -/

section
variable {α β γ : Type}

def lastBy (f : α → Option β) (l : List α) : Option β := (l.filterMap f).getLast?

theorem lastBy_nil (f : α → Option β) : lastBy f [] = none := rfl

theorem lastBy_cons (f : α → Option β) (a : α) (l : List α) :
    lastBy f (a :: l) = (lastBy f l).or (f a) := by
  unfold lastBy
  cases h : f a with
  | none => rw [List.filterMap_cons_none h, Option.or_none]
  | some b =>
    rw [List.filterMap_cons_some h, List.getLast?_cons]
    cases (l.filterMap f).getLast? <;> rfl

theorem lastBy_singleton (f : α → Option β) (a : α) : lastBy f [a] = f a := by
  rw [lastBy_cons, lastBy_nil, Option.none_or]

theorem lastBy_append (f : α → Option β) (l l' : List α) :
    lastBy f (l ++ l') = (lastBy f l').or (lastBy f l) := by
  rw [lastBy, List.filterMap_append, List.getLast?_append]
  rfl

theorem lastBy_flatMap (f : α → Option β) (g : γ → List α) (l : List γ) :
    lastBy f (l.flatMap g) = lastBy (fun c => lastBy f (g c)) l := by
  induction l with
  | nil => rfl
  | cons c l ih => rw [List.flatMap_cons, lastBy_append, lastBy_cons, ih]

theorem lastBy_filterMap (f : α → Option β) (g : γ → Option α) (l : List γ) :
    lastBy f (l.filterMap g) = lastBy (fun c => (g c).bind f) l := by
  rw [lastBy, List.filterMap_filterMap]
  rfl

theorem lastBy_map (f : α → Option β) (g : β → γ) (l : List α) :
    lastBy (fun a => (f a).map g) l = (lastBy f l).map g := by
  rw [lastBy, lastBy, ← List.getLast?_map, List.map_filterMap]

theorem lastBy_congr {f g : α → Option β} {l : List α} (h : ∀ a ∈ l, f a = g a) :
    lastBy f l = lastBy g l := by
  rw [lastBy, lastBy, List.filterMap_congr h]

theorem lastBy_eq_none_iff {f : α → Option β} {l : List α} :
    lastBy f l = none ↔ ∀ a ∈ l, f a = none := by
  rw [lastBy, List.getLast?_eq_none_iff, List.filterMap_eq_nil_iff]

theorem exists_of_lastBy {f : α → Option β} {l : List α} {b : β} (h : lastBy f l = some b) :
    ∃ a ∈ l, f a = some b :=
  List.mem_filterMap.mp (List.mem_of_getLast? h)

/-- the value of `f` at the last element follows from that of a function `t` that is defined
wherever `f` is -/
theorem lastBy_of_lastBy {t : α → Option γ} {f : α → Option β} {l : List α} {c : γ} {b : β}
    (h : lastBy t l = some c) (undefined : ∀ a ∈ l, t a = none → f a = none)
    (value : ∀ a ∈ l, t a = some c → f a = some b) : lastBy f l = some b := by
  induction l with
  | nil => cases h
  | cons a l ih =>
    obtain ⟨undefined_a, undefined⟩ := List.forall_mem_cons.mp undefined
    obtain ⟨value_a, value⟩ := List.forall_mem_cons.mp value
    rw [lastBy_cons] at h ⊢
    cases hl : lastBy t l with
    | some c' =>
      rw [hl, Option.some_or] at h
      rw [ih (hl.trans h) undefined value, Option.some_or]
    | none =>
      have none : lastBy f l = none := by
        rw [lastBy_eq_none_iff] at hl ⊢
        exact fun x hx => undefined x hx (hl x hx)
      rw [hl, Option.none_or] at h
      rw [none, value_a h, Option.none_or]

end

/-! ## effective spacing -/

/-- sign and value of a setting, if it is for this variant and box and has these letters -/
def Setting.at? (variant : String) (box : Box) (letters : List Char) (st : Setting) :
    Option (String × String) :=
  if st.variant = variant ∧ st.box = box ∧ st.letters = letters then some (st.sign, st.value)
  else none

/-- the letters of a setting for this variant and box, if they are among `spelled` -/
def Setting.among? (variant : String) (box : Box) (spelled : List (List Char)) (st : Setting) :
    Option (List Char) :=
  if st.variant = variant ∧ st.box = box ∧ st.letters ∈ spelled then some st.letters else none

theorem Setting.at?_eq_some_iff {st : Setting} {variant sign value : String} {box : Box}
    {letters : List Char} :
    st.at? variant box letters = some (sign, value) ↔
      st = ⟨variant, sign, box, letters, value⟩ := by
  unfold at?
  constructor
  · intro h
    split at h
    · next e =>
      obtain ⟨rfl, rfl, rfl⟩ := e
      obtain ⟨rfl, rfl⟩ := Prod.mk.inj (Option.some.inj h)
      rfl
    · cases h
  · rintro rfl
    exact if_pos ⟨rfl, rfl, rfl⟩

theorem Setting.among?_eq_some_iff {st : Setting} {variant : String} {box : Box}
    {spelled : List (List Char)} {letters : List Char} :
    st.among? variant box spelled = some letters ↔
      st.variant = variant ∧ st.box = box ∧ st.letters = letters ∧ letters ∈ spelled := by
  unfold among?
  constructor
  · intro h
    split at h
    · next e =>
      obtain rfl := Option.some.inj h
      exact ⟨e.1, e.2.1, rfl, e.2.2⟩
    · cases h
  · rintro ⟨hv, hb, rfl, mem⟩
    exact if_pos ⟨hv, hb, mem⟩

/-- sign and value of the last class with these letters -/
def last? (classes : List String) (variant : String) (box : Box) (letters : List Char) :
    Option (String × String) :=
  lastBy (Setting.at? variant box letters) (settings classes)

/-- sign and value that take effect on a side: of a class for the side, for the axis, or for all
sides -/
def effective? (classes : List String) (variant : String) (box : Box) (s : Side) :
    Option (String × String) :=
  (last? classes variant box [s.letter]).or
    ((last? classes variant box [s.axis]).or (last? classes variant box []))

theorem last?_ne_none_of_among {classes : List String} {variant : String} {box : Box}
    {spelled : List (List Char)} {letters : List Char}
    (h : lastBy (Setting.among? variant box spelled) (settings classes) = some letters) :
    last? classes variant box letters ≠ none := by
  obtain ⟨st, hst, hm⟩ := exists_of_lastBy h
  obtain ⟨hv, hb, hl, -⟩ := Setting.among?_eq_some_iff.mp hm
  intro none
  have absent := lastBy_eq_none_iff.mp none st hst
  rw [Setting.at?, if_pos ⟨hv, hb, hl⟩] at absent
  cases absent

/-! ## shorthands that give way -/

/-- the settings that a shorthand leaves when the sides in `own` are taken out of it -/
def Setting.expand (own : List (String × Box × Side)) (st : Setting) : List Setting :=
  match sidesOf? st.letters with
  | none => [st]
  | some sides =>
    if sides.any fun s => own.contains (st.variant, st.box, s) then
      (sides.filter fun s => !own.contains (st.variant, st.box, s)).map fun s =>
        { st with letters := [s.letter] }
    else [st]

theorem settings_cons (c : String) (cs : List String) :
    settings (c :: cs) = (setting? c).toList ++ settings cs := by
  rw [settings, settings]
  cases h : setting? c with
  | none => rw [List.filterMap_cons_none h, Option.toList_none, List.nil_append]
  | some st =>
    rw [List.filterMap_cons_some h, Option.toList_some, List.singleton_append]

theorem settings_singleton (c : String) : settings [c] = (setting? c).toList := by
  rw [settings_cons, settings, List.filterMap_nil, List.append_nil]

theorem settings_map {f : Side → String} {g : Side → Setting}
    (h : ∀ s, setting? (f s) = some (g s)) (sides : List Side) :
    settings (sides.map f) = sides.map g := by
  induction sides with
  | nil => rfl
  | cons s sides ih =>
    rw [List.map_cons, settings_cons, h, ih, Option.toList_some, List.singleton_append,
      List.map_cons]

theorem settings_expandOne (own : List (String × Box × Side)) (cls : String) :
    settings (expandOne own cls) = (setting? cls).toList.flatMap (Setting.expand own) := by
  cases h : setting? cls with
  | none =>
    have other : ∀ st, setting? cls = some st → sidesOf? st.letters = none :=
      fun st hst => nomatch hst.symm.trans h
    rw [expandOne_of_not_shorthand own other, settings_singleton, h]
    rfl
  | some st =>
    rw [Option.toList_some, List.flatMap_singleton, Setting.expand]
    cases hl : sidesOf? st.letters with
    | none =>
      have other : ∀ st', setting? cls = some st' → sidesOf? st'.letters = none := by
        intro st' hst'
        rw [← hl, Option.some.inj (hst'.symm.trans h)]
      rw [expandOne_of_not_shorthand own other, settings_singleton, h]
      rfl
    | some sides =>
      have narrowed (s : Side) : setting? { st with letters := [s.letter] }.toClass
          = some { st with letters := [s.letter] } :=
        setting?_toClass h (mem_spellings_of_sides hl) (mem_spellings_of_side s)
      rw [expandOne_of_shorthand own h hl]
      dsimp only
      split
      · rw [settings_map narrowed]
      · rw [settings_singleton, h]
        rfl

theorem settings_flatMap (f : String → List String) (classes : List String) :
    settings (classes.flatMap f) = classes.flatMap fun c => settings (f c) :=
  List.filterMap_flatMap

theorem settings_expandOverridden (classes : List String) :
    settings (expandOverridden classes)
      = (settings classes).flatMap (Setting.expand (classes.filterMap ownSide?)) := by
  rw [expandOverridden, settings_flatMap]
  generalize classes.filterMap ownSide? = own
  induction classes with
  | nil => rfl
  | cons c cs ih =>
    rw [List.flatMap_cons, ih, settings_expandOne, settings_cons, List.flatMap_append]

theorem sidesOf?_eq_some {letters : List Char} {sides : List Side}
    (h : sidesOf? letters = some sides) :
    (letters = [] ∧ sides = Side.all) ∨ (letters = ['x'] ∧ sides = [.left, .right]) ∨
      (letters = ['y'] ∧ sides = [.top, .bottom]) := by
  unfold sidesOf? at h
  split at h <;> cases h <;> simp

theorem mem_sides_iff {letters : List Char} {sides : List Side} (h : sidesOf? letters = some sides)
    {s : Side} : s ∈ sides ↔ letters = [s.axis] ∨ letters = [] := by
  rcases sidesOf?_eq_some h with ⟨rfl, rfl⟩ | ⟨rfl, rfl⟩ | ⟨rfl, rfl⟩ <;> cases s <;> decide

theorem letter_ne_of_sides {letters : List Char} {sides : List Side}
    (h : sidesOf? letters = some sides) (s : Side) : [s.letter] ≠ letters := by
  intro e
  rw [← e] at h
  cases s <;> cases h

theorem any_sides_of_axis {s : Side} {sides : List Side} (h : sidesOf? [s.axis] = some sides)
    (p : Side → Bool) : sides.any p = (p s || p s.opposite) := by
  cases s <;> cases h <;> simp [Side.opposite, Bool.or_comm]

theorem Setting.mem_expand {own : List (String × Box × Side)} {st st' : Setting}
    (h : st' ∈ st.expand own) : st' = st ∨ ∃ s : Side, st' = { st with letters := [s.letter] } := by
  unfold expand at h
  split at h
  · exact .inl (List.mem_singleton.mp h)
  split at h
  · obtain ⟨s, -, rfl⟩ := List.mem_map.mp h
    exact .inr ⟨s, rfl⟩
  · exact .inl (List.mem_singleton.mp h)

/-- expansion keeps to the variant and box of a setting -/
theorem lastBy_expand_elsewhere {β : Type} {f : Setting → Option β} {variant : String} {box : Box}
    (hf : ∀ st, ¬ (st.variant = variant ∧ st.box = box) → f st = none)
    (own : List (String × Box × Side)) {st : Setting}
    (h : ¬ (st.variant = variant ∧ st.box = box)) : lastBy f (st.expand own) = none := by
  rw [lastBy_eq_none_iff]
  intro st' hst'
  rcases Setting.mem_expand hst' with rfl | ⟨u, rfl⟩ <;> exact hf _ h

theorem Setting.at?_self (st : Setting) (letters : List Char) :
    st.at? st.variant st.box letters =
      if st.letters = letters then some (st.sign, st.value) else none := by
  simp [at?]

theorem Setting.at?_of_ne {st : Setting} {variant : String} {box : Box}
    (h : ¬ (st.variant = variant ∧ st.box = box)) (letters : List Char) :
    st.at? variant box letters = none :=
  if_neg fun e => h ⟨e.1, e.2.1⟩

theorem side_letter_inj {s u : Side} : [u.letter] = [s.letter] ↔ u = s := by
  cases u <;> cases s <;> decide

theorem side_letter_ne_axis (u s : Side) : [u.letter] ≠ [s.axis] := by
  cases u <;> cases s <;> decide

/-- of the classes that a shorthand is taken apart into, `f` sees the one for a side -/
theorem lastBy_narrowed {β : Type} {f : Setting → Option β} {st : Setting} {s : Side} {b : β}
    (h : ∀ u : Side, f { st with letters := [u.letter] } = if u = s then some b else none)
    (sides : List Side) :
    lastBy f (sides.map fun u => { st with letters := [u.letter] }) =
      if s ∈ sides then some b else none := by
  induction sides with
  | nil => rfl
  | cons u sides ih =>
    rw [List.map_cons, lastBy_cons, ih, h]
    by_cases hs : s ∈ sides <;> simp [hs, eq_comm]

/-- the settings for one side after expansion: its own ones, and those of shorthands over it that
cover a side set on its own -/
theorem lastBy_side_expand (own : List (String × Box × Side)) (variant : String) (box : Box)
    (s : Side) (st : Setting) :
    lastBy (Setting.at? variant box [s.letter]) (st.expand own) =
      (st.at? variant box [s.letter]).or
        (if own.contains (variant, box, s) then none
        else (if own.contains (variant, box, s.opposite) then st.at? variant box [s.axis]
          else none).or
          (if Side.all.any fun s => own.contains (variant, box, s) then st.at? variant box []
          else none)) := by
  by_cases same : st.variant = variant ∧ st.box = box
  · obtain ⟨rfl, rfl⟩ := same
    unfold Setting.expand
    generalize hp : (fun u => own.contains (st.variant, st.box, u)) = p
    have hp (u : Side) : own.contains (st.variant, st.box, u) = p u := congrFun hp u
    simp only [hp, Setting.at?_self]
    cases h : sidesOf? st.letters with
    | none =>
      have narrow : st.letters ≠ [s.axis] ∧ st.letters ≠ [] := by
        constructor <;> intro e <;> rw [e] at h <;> cases s <;> cases h
      simp [lastBy_cons, lastBy_nil, Setting.at?_self, narrow]
    | some sides =>
      have wide : st.letters ≠ [s.letter] := (letter_ne_of_sides h s).symm
      dsimp only
      have at_narrowed (u : Side) :
          { st with letters := [u.letter] }.at? st.variant st.box [s.letter] =
            if u = s then some (st.sign, st.value) else none := by
        simp only [Setting.at?, side_letter_inj, true_and]
      rw [apply_ite (lastBy _), lastBy_narrowed at_narrowed, lastBy_singleton, Setting.at?_self,
        if_neg wide, Option.none_or]
      simp only [List.mem_filter, mem_sides_iff h]
      cases hs : p s with
      | true => simp
      | false =>
        by_cases axis : st.letters = [s.axis]
        · simp [any_sides_of_axis (axis ▸ h), axis, hs]
        by_cases all : st.letters = []
        · obtain rfl : sides = Side.all := Option.some.inj (h.symm.trans (congrArg sidesOf? all))
          simp [all]
        · simp [axis, all]
  · have none := lastBy_expand_elsewhere (fun st' h => Setting.at?_of_ne h [s.letter]) own same
    simp [none, Setting.at?_of_ne same]

/-- a shorthand stays as it is if none of its sides is set on its own -/
theorem lastBy_wide_expand (own : List (String × Box × Side)) (variant : String) (box : Box)
    {letters : List Char} {sides : List Side} (h : sidesOf? letters = some sides) (st : Setting) :
    lastBy (Setting.at? variant box letters) (st.expand own) =
      if sides.any fun s => own.contains (variant, box, s) then none
      else st.at? variant box letters := by
  by_cases same : st.variant = variant ∧ st.box = box ∧ st.letters = letters
  · obtain ⟨rfl, rfl, rfl⟩ := same
    unfold Setting.expand
    rw [h]
    dsimp only
    split
    · rw [lastBy_eq_none_iff]
      intro st' hst'
      obtain ⟨s, -, rfl⟩ := List.mem_map.mp hst'
      exact if_neg fun e => letter_ne_of_sides h s e.2.2
    · rw [lastBy_singleton]
  · have none : lastBy (Setting.at? variant box letters) (st.expand own) = none := by
      rw [lastBy_eq_none_iff]
      intro st' hst'
      refine if_neg fun e => ?_
      rcases Setting.mem_expand hst' with rfl | ⟨u, rfl⟩
      · exact same e
      · exact letter_ne_of_sides h u e.2.2
    rw [none, Setting.at?, if_neg same, ite_self]

/-- where no class sets a side of an axis on its own, but one sets another side, the axis stays and
the shorthand for all sides becomes one for each of the two -/
theorem lastBy_among_expand (own : List (String × Box × Side)) (variant : String) (box : Box)
    {a : Side} (ha : own.contains (variant, box, a) = false)
    (ho : own.contains (variant, box, a.opposite) = false)
    (touched : (Side.all.any fun s => own.contains (variant, box, s)) = true) (st : Setting) :
    lastBy (Setting.among? variant box [[a.axis], [a.letter]]) (st.expand own) =
      (st.among? variant box [[a.axis], [], [a.letter]]).map fun letters =>
        if letters = [] then [a.letter] else letters := by
  by_cases same : st.variant = variant ∧ st.box = box
  · obtain ⟨rfl, rfl⟩ := same
    unfold Setting.expand
    generalize hp : (fun u => own.contains (st.variant, st.box, u)) = p at *
    have hp (u : Side) : own.contains (st.variant, st.box, u) = p u := congrFun hp u
    rw [hp] at ha ho
    cases h : sidesOf? st.letters with
    | none =>
      have narrow : st.letters ≠ [] := by
        intro e
        rw [e] at h
        cases h
      dsimp only
      rw [lastBy_singleton, Setting.among?, Setting.among?]
      simp only [List.mem_cons, narrow, false_or]
      split
      · simp [narrow]
      · rfl
    | some sides =>
      have wide : st.letters ≠ [a.letter] := (letter_ne_of_sides h a).symm
      have among_narrowed (u : Side) :
          { st with letters := [u.letter] }.among? st.variant st.box [[a.axis], [a.letter]] =
            if u = a then some [a.letter] else none := by
        have wide : [u.letter] ≠ [a.axis] := side_letter_ne_axis u a
        by_cases hu : u = a
        · simp [Setting.among?, hu]
        · have other : [u.letter] ≠ [a.letter] := fun e => hu (side_letter_inj.mp e)
          simp only [Setting.among?, List.mem_cons, wide, other, hu, List.not_mem_nil, or_self,
            and_false, if_false]
      dsimp only
      rw [apply_ite (lastBy _), lastBy_narrowed among_narrowed, lastBy_singleton]
      simp only [hp, List.mem_filter, mem_sides_iff h]
      by_cases axis : st.letters = [a.axis]
      · have untouched : sides.any p = false := by
          rw [any_sides_of_axis (axis ▸ h), ha, ho]
          rfl
        simp [untouched, Setting.among?, axis]
      by_cases all : st.letters = []
      · obtain rfl : sides = Side.all := Option.some.inj (h.symm.trans (congrArg sidesOf? all))
        simp [touched, all, ha, Setting.among?]
      · simp [axis, all, wide, Setting.among?]
  · have elsewhere (st' : Setting) (h : ¬ (st'.variant = variant ∧ st'.box = box))
        (spelled : List (List Char)) : st'.among? variant box spelled = none :=
      if_neg fun e => h ⟨e.1, e.2.1⟩
    rw [lastBy_expand_elsewhere (fun st' h => elsewhere st' h _) own same, elsewhere st same]
    rfl

/-! ## later classes of a group -/

/-- only settings of spacing groups are in the domain of `f`, and with one all of its group -/
structure ByGroup {β : Type} (f : Setting → Option β) : Prop where
  spelled : ∀ st, (f st).isSome = true → st.letters ∈ spellings
  whole : ∀ st st', st'.variant = st.variant → st'.box = st.box → st'.letters = st.letters →
    (f st).isSome = true → (f st').isSome = true

theorem byGroup_at? (variant : String) (box : Box) {letters : List Char}
    (h : letters ∈ spellings) : ByGroup (Setting.at? variant box letters) where
  spelled st := by
    unfold Setting.at?
    split
    · next e => exact fun _ => e.2.2 ▸ h
    · exact fun e => nomatch e
  whole st st' hv hb hl := by
    rw [Setting.at?, Setting.at?, hv, hb, hl]
    split
    · exact id
    · exact id

theorem byGroup_among? (variant : String) (box : Box) {spelled : List (List Char)}
    (h : ∀ letters ∈ spelled, letters ∈ spellings) :
    ByGroup (Setting.among? variant box spelled) where
  spelled st := by
    unfold Setting.among?
    split
    · next e => exact fun _ => h _ e.2.2
    · exact fun e => nomatch e
  whole st st' hv hb hl := by
    rw [Setting.among?, Setting.among?, hv, hb, hl]
    exact id

/-- a function that is defined on classes of groups only, and with one class on all of its group -/
def Grouped {β : Type} (f : String → Option β) : Prop :=
  ∀ c, (f c).isSome = true → (groupKey? c).isSome = true ∧
    ∀ d, groupKey? d = groupKey? c → (f d).isSome = true

section
variable {β : Type}

theorem ByGroup.grouped {f : Setting → Option β} (h : ByGroup f) :
    Grouped fun c => (setting? c).bind f := by
  intro c hc
  obtain ⟨b, hb⟩ := Option.isSome_iff_exists.mp hc
  obtain ⟨st, hst, hf⟩ := Option.bind_eq_some_iff.mp hb
  have given : (f st).isSome = true := by rw [hf]; rfl
  have hl := h.spelled st given
  have key : groupKey? c = some (st.variant, groupName st.box st.letters) :=
    (groupKey?_eq_iff hl).mpr ⟨st, hst, rfl, rfl, rfl⟩
  refine ⟨by rw [key]; rfl, fun d hd => ?_⟩
  obtain ⟨st', hst', hv, hb, hl⟩ := (groupKey?_eq_iff hl).mp (hd.trans key)
  dsimp only
  rw [hst', Option.bind_some]
  exact h.whole st st' hv hb hl given

theorem lastBy_dedupeAfter {f : String → Option β} (h : Grouped f) :
    ∀ (classes seen : List String),
      (∀ c ∈ seen, (groupKey? c).isSome = true → ∀ d ∈ classes, groupKey? d ≠ groupKey? c) →
        lastBy f (dedupeAfter seen classes) = lastBy f classes := by
  intro classes
  induction classes with
  | nil => exact fun _ _ => rfl
  | cons c cs ih =>
    intro seen hseen
    have hcs : ∀ e ∈ seen, (groupKey? e).isSome = true → ∀ d ∈ cs, groupKey? d ≠ groupKey? e :=
      fun e he hg d hd => hseen e he hg d (List.mem_cons_of_mem _ hd)
    unfold dedupeAfter
    rw [lastBy_cons]
    split
    · next superseded =>
      rw [Bool.and_eq_true, List.any_eq_true] at superseded
      obtain ⟨-, d, hd, e⟩ := superseded
      rw [ih seen hcs]
      cases hc : f c with
      | none => rw [Option.or_none]
      | some b =>
        have hfd := (h c (by rw [hc]; rfl)).2 d (beq_iff_eq.mp e)
        have later : lastBy f cs ≠ none := by
          intro none
          rw [lastBy_eq_none_iff.mp none d hd] at hfd
          cases hfd
        rw [Option.or_of_isSome (Option.isSome_iff_ne_none.mpr later)]
    · next last =>
      split
      · next again =>
        have none : f c = none := by
          refine Option.not_isSome_iff_eq_none.mp fun hc => ?_
          exact hseen c (List.contains_iff_mem.mp again) (h c hc).1 c List.mem_cons_self rfl
        rw [ih seen hcs, none, Option.or_none]
      · rw [lastBy_cons, ih]
        intro e he hg d hd same
        rcases List.mem_cons.mp he with rfl | he
        · refine last ?_
          rw [Bool.and_eq_true, List.any_eq_true]
          exact ⟨hg, d, hd, beq_iff_eq.mpr same⟩
        · exact hcs e he hg d hd same

/-- whatever is said of the last class of a group survives -/
theorem lastBy_dedupe {f : String → Option β} (h : Grouped f) (classes : List String) :
    lastBy f (dedupe classes) = lastBy f classes :=
  lastBy_dedupeAfter h classes [] fun _ hc => absurd hc List.not_mem_nil

theorem lastBy_settings_dedupe {f : Setting → Option β} (h : ByGroup f) (classes : List String) :
    lastBy f (settings (dedupe classes)) = lastBy f (settings classes) := by
  rw [settings, settings, lastBy_filterMap, lastBy_filterMap, lastBy_dedupe h.grouped]

end

/-- no two classes belong to one group -/
def Distinct (classes : List String) : Prop :=
  classes.Pairwise fun c d => (groupKey? c).isSome = true → groupKey? d ≠ groupKey? c

theorem mem_dedupeAfter {c : String} : ∀ {classes seen : List String},
    c ∈ dedupeAfter seen classes → c ∈ classes := by
  intro classes
  induction classes with
  | nil => exact id
  | cons d ds ih =>
    intro seen h
    unfold dedupeAfter at h
    split at h
    · exact List.mem_cons_of_mem _ (ih h)
    split at h
    · exact List.mem_cons_of_mem _ (ih h)
    · rcases List.mem_cons.mp h with rfl | h
      · exact List.mem_cons_self
      · exact List.mem_cons_of_mem _ (ih h)

theorem distinct_dedupeAfter : ∀ classes seen : List String,
    Distinct (dedupeAfter seen classes) := by
  intro classes
  induction classes with
  | nil => exact fun _ => .nil
  | cons c cs ih =>
    intro seen
    unfold dedupeAfter
    split
    · exact ih seen
    next last =>
      split
      · exact ih seen
      · refine .cons (fun d hd hc same => last ?_) (ih _)
        rw [Bool.and_eq_true, List.any_eq_true]
        exact ⟨hc, d, mem_dedupeAfter hd, beq_iff_eq.mpr same⟩

theorem distinct_dedupe (classes : List String) : Distinct (dedupe classes) :=
  distinct_dedupeAfter classes []

end Handoff.ClassList
