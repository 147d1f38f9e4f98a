import Handoff.Proofs.ClassList.Effective

/-!
# Equal sides, joined

`consolidate` looks at the classes of sides with a value on the scale.  In a list with at most one
class for each side (`SingleSides`), as where no two classes belong to one group, it is clear what
becomes of each class:

* `joined_of_four`     all four sides are equal: the first class becomes one for all sides, and the
                       others go;
* `joined_of_pair`     only the opposite side is equal: the first of the two becomes one for the
                       axis, and the other goes;
* `joined_of_apart`    otherwise the class stays.

From these follows what the last class of each spelling is afterwards (`last?_side_of_apart`, …).
-/

namespace Handoff.ClassList

/-- what `consolidate` sees of a class list -/
def entries (classes : List String) : List ScaleSide := classes.zipIdx.filterMap scaleSide?

/-- the setting of an entry, with letters for more sides perhaps -/
def ScaleSide.spelled (e : ScaleSide) (letters : List Char) : Setting :=
  ⟨e.variant, "", e.box, letters, e.token⟩

def ScaleSide.setting (e : ScaleSide) : Setting := e.spelled [e.side.letter]

theorem ScaleSide.at?_spelled (e : ScaleSide) (letters : List Char) :
    (e.spelled letters).at? e.variant e.box letters = some ("", e.token) :=
  if_pos ⟨rfl, rfl, rfl⟩

theorem ScaleSide.toClass_spelled (e : ScaleSide) (letters : List Char) :
    (e.spelled letters).toClass =
      e.variant ++ String.ofList (e.box.letter :: letters) ++ "-" ++ e.token := by
  rw [← String.toList_inj]
  simp [ScaleSide.spelled, Setting.toClass, Setting.chars]

theorem scaleSide?_eq_some_iff {c : String} {i : Nat} {e : ScaleSide} :
    scaleSide? (c, i) = some e ↔
      e.index = i ∧ setting? c = some e.setting ∧ (Utility.scalePx? e.token).isSome = true := by
  unfold scaleSide?
  rw [Option.bind_eq_some_iff]
  constructor
  · rintro ⟨⟨box, side, token⟩, hs, h⟩
    dsimp only at h
    split at h
    · next scale =>
      obtain rfl := Option.some.inj h
      exact ⟨rfl, side?_baseOf_iff.mp hs, scale⟩
    · cases h
  · rintro ⟨rfl, hs, scale⟩
    have hv : variantOf c = e.variant := (setting?_eq_some_iff.mp hs).1
    refine ⟨(e.box, e.side, e.token), side?_baseOf_iff.mpr (hv ▸ hs), ?_⟩
    dsimp only
    rw [if_pos scale, hv]

theorem mem_entries_iff {classes : List String} {e : ScaleSide} :
    e ∈ entries classes ↔ ∃ c, (c, e.index) ∈ classes.zipIdx ∧
      setting? c = some e.setting ∧ (Utility.scalePx? e.token).isSome = true := by
  rw [entries, List.mem_filterMap]
  constructor
  · rintro ⟨⟨c, i⟩, hx, he⟩
    obtain ⟨rfl, hs, scale⟩ := scaleSide?_eq_some_iff.mp he
    exact ⟨c, hx, hs, scale⟩
  · rintro ⟨c, hx, hs, scale⟩
    exact ⟨(c, e.index), hx, scaleSide?_eq_some_iff.mpr ⟨rfl, hs, scale⟩⟩

/-! ## one class for each spelling -/

/-- a group has one class, at one place -/
theorem Distinct.unique {classes : List String} (hD : Distinct classes) {c d : String} {i j : Nat}
    (hc : (c, i) ∈ classes.zipIdx) (hd : (d, j) ∈ classes.zipIdx)
    (given : (groupKey? c).isSome = true) (same : groupKey? d = groupKey? c) : i = j := by
  have hci : classes[i]? = some c := List.mk_mem_zipIdx_iff_getElem?.mp hc
  have hdj : classes[j]? = some d := List.mk_mem_zipIdx_iff_getElem?.mp hd
  obtain ⟨hi, rfl⟩ := List.getElem?_eq_some_iff.mp hci
  obtain ⟨hj, rfl⟩ := List.getElem?_eq_some_iff.mp hdj
  rcases Nat.lt_trichotomy i j with lt | rfl | lt
  · exact absurd same (List.pairwise_iff_getElem.mp hD i j hi hj lt given)
  · rfl
  · have given' : (groupKey? classes[j]).isSome = true := by
      rw [same]
      exact given
    exact absurd same.symm (List.pairwise_iff_getElem.mp hD j i hj hi lt given')

/-- at most one class has these letters, with a sign or without -/
def Single (classes : List String) (variant : String) (box : Box) (letters : List Char) : Prop :=
  ∀ c d i j sign sign' value value', (c, i) ∈ classes.zipIdx → (d, j) ∈ classes.zipIdx →
    setting? c = some ⟨variant, sign, box, letters, value⟩ →
    setting? d = some ⟨variant, sign', box, letters, value'⟩ → i = j

/-- at most one class is for each side -/
def SingleSides (classes : List String) : Prop :=
  ∀ (variant : String) (box : Box) (s : Side), Single classes variant box [s.letter]

theorem Distinct.single {classes : List String} (hD : Distinct classes) (variant : String)
    (box : Box) {letters : List Char} (hl : letters ∈ spellings) :
    Single classes variant box letters := by
  intro c d i j sign sign' value value' hc hd hst hst'
  have kc : groupKey? c = some (variant, groupName box letters) :=
    (groupKey?_eq_iff hl).mpr ⟨_, hst, rfl, rfl, rfl⟩
  have kd : groupKey? d = some (variant, groupName box letters) :=
    (groupKey?_eq_iff hl).mpr ⟨_, hst', rfl, rfl, rfl⟩
  exact hD.unique hc hd (by rw [kc]; rfl) (kd.trans kc.symm)

theorem Distinct.singleSides {classes : List String} (hD : Distinct classes) :
    SingleSides classes := fun variant box s => hD.single variant box (mem_spellings_of_side s)

theorem Single.unique_setting {classes : List String} {variant : String} {box : Box}
    {letters : List Char} (single : Single classes variant box letters) {c d : String} {i j : Nat}
    {st st' : Setting} (hc : (c, i) ∈ classes.zipIdx) (hd : (d, j) ∈ classes.zipIdx)
    (hst : setting? c = some st) (hst' : setting? d = some st')
    (h : st.variant = variant ∧ st.box = box ∧ st.letters = letters)
    (h' : st'.variant = variant ∧ st'.box = box ∧ st'.letters = letters) : i = j ∧ st = st' := by
  obtain ⟨_, sign, _, _, value⟩ := st
  obtain ⟨_, sign', _, _, value'⟩ := st'
  obtain ⟨rfl, rfl, rfl⟩ := h
  obtain ⟨rfl, rfl, rfl⟩ := h'
  obtain rfl := single c d i j sign sign' value value' hc hd hst hst'
  have same : some c = some d :=
    (List.mk_mem_zipIdx_iff_getElem?.mp hc).symm.trans (List.mk_mem_zipIdx_iff_getElem?.mp hd)
  obtain rfl := Option.some.inj same
  exact ⟨rfl, Option.some.inj (hst.symm.trans hst')⟩

theorem exists_of_last? {classes : List String} {variant sign value : String} {box : Box}
    {letters : List Char} (h : last? classes variant box letters = some (sign, value)) :
    ∃ c i, (c, i) ∈ classes.zipIdx ∧ setting? c = some ⟨variant, sign, box, letters, value⟩ := by
  obtain ⟨st, hst, e⟩ := exists_of_lastBy h
  obtain rfl := Setting.at?_eq_some_iff.mp e
  obtain ⟨c, hc, hs⟩ := List.mem_filterMap.mp hst
  obtain ⟨i, hi⟩ := List.mem_iff_getElem?.mp hc
  exact ⟨c, i, List.mk_mem_zipIdx_iff_getElem?.mpr hi, hs⟩

theorem last?_ne_none {classes : List String} {variant sign value : String} {box : Box}
    {letters : List Char} {c : String} {i : Nat} (hc : (c, i) ∈ classes.zipIdx)
    (hs : setting? c = some ⟨variant, sign, box, letters, value⟩) :
    last? classes variant box letters ≠ none := by
  intro h
  have mem : ⟨variant, sign, box, letters, value⟩ ∈ settings classes :=
    List.mem_filterMap.mpr ⟨c, List.fst_mem_of_mem_zipIdx hc, hs⟩
  have none := lastBy_eq_none_iff.mp h _ mem
  rw [Setting.at?_eq_some_iff.mpr rfl] at none
  cases none

theorem Single.last?_eq_some_iff {classes : List String} {variant sign value : String} {box : Box}
    {letters : List Char} (single : Single classes variant box letters) :
    last? classes variant box letters = some (sign, value) ↔
      ∃ c i, (c, i) ∈ classes.zipIdx ∧
        setting? c = some ⟨variant, sign, box, letters, value⟩ := by
  refine ⟨exists_of_last?, ?_⟩
  rintro ⟨c, i, hc, hs⟩
  cases h : last? classes variant box letters with
  | none => exact absurd h (last?_ne_none hc hs)
  | some p =>
    obtain ⟨sign', value'⟩ := p
    obtain ⟨d, j, hd, hs'⟩ := exists_of_last? h
    obtain ⟨-, e⟩ := single.unique_setting hc hd hs hs' ⟨rfl, rfl, rfl⟩ ⟨rfl, rfl, rfl⟩
    obtain ⟨-, rfl, -, -, rfl⟩ := Setting.mk.inj e
    rfl

section
variable {classes : List String} (hS : SingleSides classes)
include hS

theorem SingleSides.unique_entry {e o : ScaleSide} (he : e ∈ entries classes)
    (ho : o ∈ entries classes) (hv : o.variant = e.variant) (hb : o.box = e.box)
    (hs : o.side = e.side) : o = e := by
  obtain ⟨c, hc, hce, -⟩ := mem_entries_iff.mp he
  obtain ⟨d, hd, hdo, -⟩ := mem_entries_iff.mp ho
  obtain ⟨hi, hst⟩ := (hS e.variant e.box e.side).unique_setting hc hd hce hdo ⟨rfl, rfl, rfl⟩
    ⟨hv, hb, congrArg (fun s => [Side.letter s]) hs⟩
  have ht : e.token = o.token := congrArg Setting.value hst
  cases e
  cases o
  simp_all

theorem lastOn?_eq_some_iff {variant : String} {box : Box} {s : Side} {o : ScaleSide} :
    lastOn? (entries classes) variant box s = some o ↔
      o ∈ entries classes ∧ o.variant = variant ∧ o.box = box ∧ o.side = s := by
  have on (e : ScaleSide) :
      e ∈ (entries classes).filter (fun e => e.variant = variant && e.box = box && e.side = s) ↔
        e ∈ entries classes ∧ e.variant = variant ∧ e.box = box ∧ e.side = s := by
    simp [List.mem_filter, and_assoc]
  constructor
  · exact fun h => (on o).mp (List.mem_of_getLast? h)
  · intro h
    cases hl : lastOn? (entries classes) variant box s with
    | none =>
      rw [lastOn?, List.getLast?_eq_none_iff] at hl
      exact absurd ((on o).mpr h) (hl ▸ List.not_mem_nil)
    | some e =>
      obtain ⟨he, hv, hb, hs⟩ := (on e).mp (List.mem_of_getLast? hl)
      obtain ⟨ho, hv', hb', hs'⟩ := h
      rw [hS.unique_entry ho he (hv.trans hv'.symm) (hb.trans hb'.symm) (hs.trans hs'.symm)]

end

/-! ## what becomes of a class -/

/-- the class for a side gives it a value on the scale -/
def Level (classes : List String) (variant : String) (box : Box) (s : Side) (token : String) :
    Prop :=
  last? classes variant box [s.letter] = some ("", token) ∧
    (Utility.scalePx? token).isSome = true

section
variable {classes : List String} (hS : SingleSides classes)
include hS

theorem level_iff {variant token : String} {box : Box} {s : Side} :
    Level classes variant box s token ↔ ∃ i, ⟨i, variant, box, s, token⟩ ∈ entries classes := by
  rw [Level, (hS variant box s).last?_eq_some_iff]
  constructor
  · rintro ⟨⟨c, i, hc, hs⟩, scale⟩
    exact ⟨i, mem_entries_iff.mpr ⟨c, hc, hs, scale⟩⟩
  · rintro ⟨i, h⟩
    obtain ⟨c, hc, hs, scale⟩ := mem_entries_iff.mp h
    exact ⟨⟨c, i, hc, hs⟩, scale⟩

theorem equal_iff {e o : ScaleSide} {s : Side} :
    ((lastOn? (entries classes) e.variant e.box s).filter fun o => o.token = e.token) = some o ↔
      o = ⟨o.index, e.variant, e.box, s, e.token⟩ ∧ o ∈ entries classes := by
  rw [Option.filter_eq_some_iff, lastOn?_eq_some_iff hS, decide_eq_true_eq]
  constructor
  · rintro ⟨⟨ho, hv, hb, hs⟩, ht⟩
    obtain ⟨index, variant, box, side, token⟩ := o
    obtain rfl : variant = e.variant := hv
    obtain rfl : box = e.box := hb
    obtain rfl : side = s := hs
    obtain rfl : token = e.token := ht
    exact ⟨rfl, ho⟩
  · rintro ⟨h, ho⟩
    rw [h] at ho ⊢
    exact ⟨⟨ho, rfl, rfl, rfl⟩, rfl⟩

omit hS in
theorem length_filterMap_all {f : Side → Option ScaleSide} :
    (Side.all.filterMap f).length = 4 ↔ ∀ s, (f s).isSome = true := by
  have each : (∀ s, (f s).isSome = true) ↔ (f .top).isSome = true ∧ (f .right).isSome = true ∧
      (f .bottom).isSome = true ∧ (f .left).isSome = true :=
    ⟨fun h => ⟨h _, h _, h _, h _⟩, fun h s => by cases s <;> simp [h]⟩
  rw [each, Side.all]
  cases ht : f .top <;> cases hr : f .right <;> cases hb : f .bottom <;> cases hl : f .left <;>
    simp [ht, hr, hb, hl]

theorem isSome_equal_iff {e : ScaleSide} {s : Side} :
    ((lastOn? (entries classes) e.variant e.box s).filter fun o => o.token = e.token).isSome = true
      ↔ Level classes e.variant e.box s e.token := by
  rw [level_iff hS, Option.isSome_iff_exists]
  constructor
  · rintro ⟨o, ho⟩
    obtain ⟨h, hm⟩ := (equal_iff hS).mp ho
    exact ⟨o.index, h ▸ hm⟩
  · rintro ⟨i, hi⟩
    exact ⟨_, (equal_iff hS).mpr ⟨rfl, hi⟩⟩

variable {c : String} {i : Nat} {e : ScaleSide} (hx : (c, i) ∈ classes.zipIdx)
  (he : scaleSide? (c, i) = some e)
include hx he

omit hS in
theorem mem_entries_of_scaleSide? : e ∈ entries classes := List.mem_filterMap.mpr ⟨_, hx, he⟩

/-- a class that gives a value on the scale is the last one for its side -/
theorem joined_eq : joined (entries classes) (c, i) =
    let equal := fun s =>
      (lastOn? (entries classes) e.variant e.box s).filter fun o => o.token = e.token
    if (Side.all.filterMap equal).length = 4 then
      if (Side.all.filterMap equal).all fun o => e.index ≤ o.index then
        some (e.spelled []).toClass
      else none
    else match equal e.side.opposite with
      | some o =>
        if e.index < o.index then some (e.spelled [e.side.axis]).toClass else none
      | none => some c := by
  have last : lastOn? (entries classes) e.variant e.box e.side = some e :=
    (lastOn?_eq_some_iff hS).mpr ⟨mem_entries_of_scaleSide? hx he, rfl, rfl, rfl⟩
  unfold joined
  rw [he]
  dsimp only
  rw [last, Option.map_some, e.toClass_spelled, e.toClass_spelled]
  exact if_neg fun ne => ne rfl

omit hS hx he in
theorem joined_of_shorthand {st : Setting} (hst : setting? c = some st)
    (h : ∀ s : Side, st.letters ≠ [s.letter]) : joined (entries classes) (c, i) = some c := by
  cases he : scaleSide? (c, i) with
  | none => rw [joined, he]
  | some e =>
    have same := Option.some.inj (hst.symm.trans (scaleSide?_eq_some_iff.mp he).2.1)
    exact absurd (congrArg Setting.letters same) (h e.side)

theorem joined_of_four (four : ∀ s, Level classes e.variant e.box s e.token) :
    joined (entries classes) (c, i) = none ∨
      joined (entries classes) (c, i) = some (e.spelled []).toClass := by
  rw [joined_eq hS hx he]
  dsimp only
  rw [if_pos (length_filterMap_all.mpr fun s => (isSome_equal_iff hS).mpr (four s))]
  split
  · exact .inr rfl
  · exact .inl rfl

/-- the first of four equal classes becomes the one for all sides -/
theorem joined_of_first (four : ∀ s, Level classes e.variant e.box s e.token)
    (first : ∀ o ∈ entries classes, o.variant = e.variant → o.box = e.box → e.index ≤ o.index) :
    joined (entries classes) (c, i) = some (e.spelled []).toClass := by
  rw [joined_eq hS hx he]
  dsimp only
  rw [if_pos (length_filterMap_all.mpr fun s => (isSome_equal_iff hS).mpr (four s)), if_pos]
  rw [List.all_eq_true]
  intro o ho
  obtain ⟨s, -, hs⟩ := List.mem_filterMap.mp ho
  obtain ⟨h, hm⟩ := (equal_iff hS).mp hs
  rw [h] at hm ⊢
  exact decide_eq_true (first _ hm rfl rfl)

/-- the others go -/
theorem joined_of_later (four : ∀ s, Level classes e.variant e.box s e.token) {o : ScaleSide}
    (ho : o ∈ entries classes) (hv : o.variant = e.variant) (hb : o.box = e.box)
    (before : o.index < e.index) : joined (entries classes) (c, i) = none := by
  rw [joined_eq hS hx he]
  dsimp only
  rw [if_pos (length_filterMap_all.mpr fun s => (isSome_equal_iff hS).mpr (four s)), if_neg]
  rw [List.all_eq_true]
  intro first
  obtain ⟨j, hj⟩ := (level_iff hS).mp (four o.side)
  have same : o = ⟨j, e.variant, e.box, o.side, e.token⟩ := hS.unique_entry hj ho hv hb rfl
  have among : o ∈ Side.all.filterMap fun s =>
      (lastOn? (entries classes) e.variant e.box s).filter fun o => o.token = e.token :=
    List.mem_filterMap.mpr
      ⟨o.side, by cases o.side <;> decide, (equal_iff hS).mpr ⟨by rw [same], ho⟩⟩
  exact Nat.not_le_of_lt before (of_decide_eq_true (first o among))

theorem joined_of_pair (notFour : ¬ ∀ s, Level classes e.variant e.box s e.token) {j : Nat}
    (ho : ⟨j, e.variant, e.box, e.side.opposite, e.token⟩ ∈ entries classes) :
    joined (entries classes) (c, i) =
      if e.index < j then some (e.spelled [e.side.axis]).toClass else none := by
  have opposite := (equal_iff hS).mpr ⟨rfl, ho⟩
  rw [joined_eq hS hx he]
  dsimp only
  rw [if_neg, opposite]
  rw [length_filterMap_all]
  exact fun all => notFour fun s => (isSome_equal_iff hS).mp (all s)

theorem joined_of_apart
    (apart : ¬ Level classes e.variant e.box e.side.opposite e.token) :
    joined (entries classes) (c, i) = some c := by
  rw [joined_eq hS hx he]
  dsimp only
  rw [if_neg, Option.not_isSome_iff_eq_none.mp fun h => apart ((isSome_equal_iff hS).mp h)]
  rw [length_filterMap_all]
  exact fun all => apart ((isSome_equal_iff hS).mp (all _))

end

/-! ## the last classes afterwards -/

theorem lastBy_settings {β : Type} (f : Setting → Option β) (classes : List String) :
    lastBy f (settings classes) = lastBy (fun x => (setting? x.1).bind f) classes.zipIdx := by
  have e : settings classes = classes.zipIdx.filterMap fun x => setting? x.1 := by
    conv => lhs; rw [settings, ← List.zipIdx_map_fst 0 classes, List.filterMap_map]
    rfl
  rw [e, lastBy_filterMap]

theorem lastBy_consolidate {β : Type} (f : Setting → Option β) (classes : List String) :
    lastBy f (settings (consolidate classes)) =
      lastBy (fun x => ((joined (entries classes) x).bind setting?).bind f) classes.zipIdx := by
  have e : settings (consolidate classes)
      = classes.zipIdx.filterMap fun x => (joined (entries classes) x).bind setting? :=
    List.filterMap_filterMap
  rw [e, lastBy_filterMap]

theorem Level.token_eq {classes : List String} {variant t t' : String} {box : Box} {s : Side}
    (h : Level classes variant box s t) (h' : Level classes variant box s t') : t = t' :=
  congrArg Prod.snd (Option.some.inj (h.1.symm.trans h'.1))

theorem setting?_spelled {c : String} {i : Nat} {e : ScaleSide} (he : scaleSide? (c, i) = some e)
    {letters : List Char} (hl : letters ∈ spellings) :
    setting? (e.spelled letters).toClass = some (e.spelled letters) :=
  setting?_toClass (scaleSide?_eq_some_iff.mp he).2.1 (mem_spellings_of_side e.side) hl

section
variable {classes : List String} (hS : SingleSides classes)
include hS

theorem level_of_mem_entries {e : ScaleSide} (he : e ∈ entries classes) :
    Level classes e.variant e.box e.side e.token :=
  (level_iff hS).mpr ⟨e.index, he⟩

/-- the letters of the shorthand that a class with an equal opposite goes into -/
def ScaleSide.Into (classes : List String) (e : ScaleSide) (letters : List Char) : Prop :=
  letters = [] ∧ (∀ s, Level classes e.variant e.box s e.token) ∨
    letters = [e.side.axis] ∧ ¬ ∀ s, Level classes e.variant e.box s e.token

/-- a class stays, or it is one of two or four equal ones and goes into a shorthand -/
theorem joined_cases {c : String} {i : Nat} (hx : (c, i) ∈ classes.zipIdx) :
    (joined (entries classes) (c, i) = some c ∧ ∀ e, scaleSide? (c, i) = some e →
      ¬ Level classes e.variant e.box e.side.opposite e.token) ∨
    ∃ e letters, scaleSide? (c, i) = some e ∧
      Level classes e.variant e.box e.side.opposite e.token ∧
      e.Into classes letters ∧
      ((joined (entries classes) (c, i)).bind setting? = none ∨
        (joined (entries classes) (c, i)).bind setting? = some (e.spelled letters)) := by
  cases he : scaleSide? (c, i) with
  | none =>
    refine .inl ⟨?_, fun e he' => nomatch he'⟩
    rw [joined, he]
  | some e =>
    by_cases four : ∀ s, Level classes e.variant e.box s e.token
    · refine .inr ⟨e, [], rfl, four _, .inl ⟨rfl, four⟩, ?_⟩
      rcases joined_of_four hS hx he four with h | h
      · exact .inl (by rw [h]; rfl)
      · exact .inr (by rw [h]; exact setting?_spelled he (by decide))
    by_cases pair : Level classes e.variant e.box e.side.opposite e.token
    · obtain ⟨j, hj⟩ := (level_iff hS).mp pair
      refine .inr ⟨e, [e.side.axis], rfl, pair, .inr ⟨rfl, four⟩, ?_⟩
      rw [joined_of_pair hS hx he four hj]
      split
      · exact .inr (setting?_spelled he (mem_spellings_of_axis _))
      · exact .inl rfl
    · refine .inl ⟨joined_of_apart hS hx he pair, fun e' he' => ?_⟩
      obtain rfl := Option.some.inj he'
      exact pair

variable {variant : String} {box : Box} {s : Side}

/-- the one class for a side that `Level` speaks of -/
theorem scaleSide?_of_level {t : String} (h : Level classes variant box s t) {c : String} {i : Nat}
    (hx : (c, i) ∈ classes.zipIdx) {st : Setting} (hst : setting? c = some st)
    (hv : st.variant = variant) (hb : st.box = box) (hl : st.letters = [s.letter]) :
    scaleSide? (c, i) = some ⟨i, variant, box, s, t⟩ := by
  obtain ⟨j, hj⟩ := (level_iff hS).mp h
  obtain ⟨d, hd, hds, scale⟩ := mem_entries_iff.mp hj
  obtain ⟨rfl, e⟩ := (hS variant box s).unique_setting hd hx hds hst ⟨rfl, rfl, rfl⟩ ⟨hv, hb, hl⟩
  exact scaleSide?_eq_some_iff.mpr ⟨rfl, hst.trans (congrArg some e.symm), scale⟩

omit hS in
theorem at?_setting_eq_none {c : String} {i : Nat} {e : ScaleSide}
    (he : scaleSide? (c, i) = some e) {letters : List Char}
    (ne : e.variant = variant → e.box = box → [e.side.letter] ≠ letters) :
    (setting? c).bind (Setting.at? variant box letters) = none := by
  rw [(scaleSide?_eq_some_iff.mp he).2.1]
  exact if_neg fun h => ne h.1 h.2.1 h.2.2

/-- where no class that is read as `letters` before or after goes into a shorthand, the last one
stays -/
theorem last?_consolidate_same {letters : List Char}
    (same : ∀ (e : ScaleSide) (letters' : List Char), e.variant = variant → e.box = box →
      Level classes variant box e.side e.token → Level classes variant box e.side.opposite e.token →
      e.Into classes letters' → [e.side.letter] ≠ letters ∧ letters' ≠ letters) :
    last? (consolidate classes) variant box letters = last? classes variant box letters := by
  rw [last?, last?, lastBy_consolidate, lastBy_settings]
  refine lastBy_congr fun ⟨c, i⟩ hx => ?_
  rcases joined_cases hS hx with ⟨stays, -⟩ | ⟨e, letters', he, opposite, hl, hj⟩
  · rw [stays]
    rfl
  · have own := level_of_mem_entries hS (mem_entries_of_scaleSide? hx he)
    have other (hv : e.variant = variant) (hb : e.box = box) :
        [e.side.letter] ≠ letters ∧ letters' ≠ letters := by
      subst hv hb
      exact same e letters' rfl rfl own opposite hl
    dsimp only
    rw [at?_setting_eq_none he fun hv hb => (other hv hb).1]
    rcases hj with hj | hj <;> rw [hj]
    · rfl
    · exact if_neg fun h => (other h.1 h.2.1).2 h.2.2

omit hS in
theorem ScaleSide.Into.ne_side {e : ScaleSide} {letters : List Char} (h : e.Into classes letters)
    (s : Side) : letters ≠ [s.letter] := by
  rcases h with ⟨rfl, -⟩ | ⟨rfl, -⟩
  · exact (List.cons_ne_nil _ _).symm
  · exact (side_letter_ne_axis s e.side).symm

theorem last?_side_of_apart
    (apart : ∀ t, Level classes variant box s t → ¬ Level classes variant box s.opposite t) :
    last? (consolidate classes) variant box [s.letter] = last? classes variant box [s.letter] := by
  refine last?_consolidate_same hS ?_
  rintro ⟨j, _, _, side, t⟩ letters rfl rfl own opposite hl
  refine ⟨fun e => ?_, hl.ne_side s⟩
  obtain rfl := side_letter_inj.mp e
  exact apart t own opposite

theorem last?_side_of_pair {t : String} (hs : Level classes variant box s t)
    (ho : Level classes variant box s.opposite t) :
    last? (consolidate classes) variant box [s.letter] = none := by
  rw [last?, lastBy_consolidate, lastBy_eq_none_iff]
  rintro ⟨c, i⟩ hx
  rcases joined_cases hS hx with ⟨stays, apart⟩ | ⟨e, letters, he, opposite, hl, hj⟩
  · rw [stays, Option.bind_some]
    cases hst : setting? c with
    | none => rfl
    | some st =>
      exact if_neg fun h =>
        apart _ (scaleSide?_of_level hS hs hx hst h.1 h.2.1 h.2.2) ho
  · rcases hj with hj | hj <;> rw [hj]
    · rfl
    · exact if_neg fun h => hl.ne_side s h.2.2

/-- the last class for an axis stays if its sides are not equal, or only as two of four -/
theorem last?_axis_same (h : ∀ u t, Side.axis u = s.axis → Level classes variant box u t →
      Level classes variant box u.opposite t → ∀ w, Level classes variant box w t) :
    last? (consolidate classes) variant box [s.axis] = last? classes variant box [s.axis] := by
  refine last?_consolidate_same hS ?_
  rintro ⟨j, _, _, side, t⟩ letters rfl rfl own opposite hl
  refine ⟨side_letter_ne_axis side s, ?_⟩
  rcases hl with ⟨rfl, -⟩ | ⟨rfl, notFour⟩
  · exact fun e => nomatch e
  · exact fun e => notFour (h side t (List.singleton_inj.mp e) own opposite)

theorem last?_plain_same (h : ∀ t, ¬ ∀ w, Level classes variant box w t) :
    last? (consolidate classes) variant box [] = last? classes variant box [] := by
  refine last?_consolidate_same hS ?_
  rintro ⟨j, _, _, side, t⟩ letters rfl rfl own opposite hl
  refine ⟨List.cons_ne_nil _ _, ?_⟩
  rcases hl with ⟨rfl, four⟩ | ⟨rfl, -⟩
  · exact absurd four (h t)
  · exact fun e => nomatch e

omit hS in
theorem exists_first : ∀ {es : List ScaleSide}, es ≠ [] →
    ∃ e ∈ es, ∀ o ∈ es, e.index ≤ o.index := by
  intro es
  induction es with
  | nil => exact fun h => absurd rfl h
  | cons e es ih =>
    intro _
    by_cases last : es = []
    · refine ⟨e, List.mem_cons_self, fun o ho => ?_⟩
      rw [last, List.mem_singleton] at ho
      exact ho ▸ Nat.le_refl _
    · obtain ⟨f, hf, first⟩ := ih last
      rcases Nat.le_total e.index f.index with le | le
      · refine ⟨e, List.mem_cons_self, fun o ho => ?_⟩
        rcases List.mem_cons.mp ho with rfl | ho
        · exact Nat.le_refl _
        · exact Nat.le_trans le (first o ho)
      · refine ⟨f, List.mem_cons_of_mem _ hf, fun o ho => ?_⟩
        rcases List.mem_cons.mp ho with rfl | ho
        · exact le
        · exact first o ho

/-- the first of four equal sides becomes a class for all of them -/
theorem last?_plain_ne_none {t : String} (four : ∀ w, Level classes variant box w t) :
    last? (consolidate classes) variant box [] ≠ none := by
  let mine := (entries classes).filter fun o => o.variant = variant ∧ o.box = box
  have mem_mine (o : ScaleSide) :
      o ∈ mine ↔ o ∈ entries classes ∧ o.variant = variant ∧ o.box = box := by
    rw [List.mem_filter, decide_eq_true_eq]
  obtain ⟨k, hk⟩ := (level_iff hS).mp (four .top)
  obtain ⟨e, hm, first⟩ := exists_first (List.ne_nil_of_mem ((mem_mine _).mpr ⟨hk, rfl, rfl⟩))
  obtain ⟨he, rfl, rfl⟩ := (mem_mine e).mp hm
  obtain rfl := (level_of_mem_entries hS he).token_eq (four e.side)
  obtain ⟨c, hc, hs, scale⟩ := mem_entries_iff.mp he
  have read : scaleSide? (c, e.index) = some e := scaleSide?_eq_some_iff.mpr ⟨rfl, hs, scale⟩
  have joins := joined_of_first hS hc read four
    fun o ho hv hb => first o ((mem_mine o).mpr ⟨ho, hv, hb⟩)
  rw [last?, lastBy_consolidate]
  intro none
  have absent := lastBy_eq_none_iff.mp none _ hc
  rw [joins, Option.bind_some, setting?_spelled read (by decide), Option.bind_some,
    ScaleSide.at?_spelled] at absent
  cases absent

theorem last?_plain_of_four {t : String} (four : ∀ w, Level classes variant box w t)
    (bare : last? classes variant box [] = none) :
    last? (consolidate classes) variant box [] = some ("", t) := by
  cases h : last? (consolidate classes) variant box [] with
  | none => exact absurd h (last?_plain_ne_none hS four)
  | some p =>
    obtain ⟨sign, value⟩ := p
    rw [last?, lastBy_consolidate] at h
    obtain ⟨⟨c, i⟩, hx, hF⟩ := exists_of_lastBy h
    rcases joined_cases hS hx with ⟨stays, -⟩ | ⟨e, letters, he, -, -, hj⟩
    · rw [stays, Option.bind_some] at hF
      obtain ⟨st, hst, hp⟩ := Option.bind_eq_some_iff.mp hF
      obtain rfl := Setting.at?_eq_some_iff.mp hp
      exact absurd bare (last?_ne_none hx hst)
    · rcases hj with hj | hj <;> rw [hj] at hF
      · cases hF
      · obtain ⟨rfl, rfl, rfl, -, rfl⟩ := Setting.mk.inj (Setting.at?_eq_some_iff.mp hF)
        have own := level_of_mem_entries hS (mem_entries_of_scaleSide? hx he)
        rw [own.token_eq (four e.side)]

omit hS in
theorem eq_opposite {u a : Side} (axis : [u.axis] = [a.axis]) (ne : u ≠ a) :
    u = a.opposite := by
  revert axis ne
  cases u <;> cases a <;> decide

omit hS in
theorem opposite_opposite (s : Side) : s.opposite.opposite = s := by cases s <;> rfl

/-! ### the first of two equal sides -/

section
variable {t : String} {a : Side} {i j : Nat}
  (hi : ⟨i, variant, box, a, t⟩ ∈ entries classes)
  (hj : ⟨j, variant, box, a.opposite, t⟩ ∈ entries classes) (lt : i < j)
  (notFour : ¬ ∀ w, Level classes variant box w t)
include hi hj lt notFour

/-- the first becomes the class for their axis -/
theorem axis_of_first {c : String} {k : Nat} (hx : (c, k) ∈ classes.zipIdx) {st : Setting}
    (hst : setting? c = some st) (hv : st.variant = variant) (hb : st.box = box)
    (hl : st.letters = [a.letter]) :
    ((joined (entries classes) (c, k)).bind setting?).bind (Setting.at? variant box [a.axis])
      = some ("", t) := by
  have he := scaleSide?_of_level hS ((level_iff hS).mpr ⟨i, hi⟩) hx hst hv hb hl
  obtain rfl : k = i := congrArg ScaleSide.index
    (hS.unique_entry hi (mem_entries_of_scaleSide? hx he) rfl rfl rfl)
  rw [joined_of_pair hS hx he notFour hj, if_pos lt, Option.bind_some,
    setting?_spelled he (mem_spellings_of_axis a)]
  exact ScaleSide.at?_spelled _ _

/-- no other class becomes one for the axis, the second of the two included -/
theorem axis_of_neither {c : String} {k : Nat} (hx : (c, k) ∈ classes.zipIdx)
    (neither : (setting? c).bind (Setting.among? variant box [[a.axis], [a.letter]]) = none) :
    ((joined (entries classes) (c, k)).bind setting?).bind (Setting.at? variant box [a.axis])
      = none := by
  have other (st : Setting) (hst : setting? c = some st) (hv : st.variant = variant)
      (hb : st.box = box) : st.letters ∉ [[a.axis], [a.letter]] := by
    intro mem
    rw [hst, Option.bind_some, Setting.among?_eq_some_iff.mpr ⟨hv, hb, rfl, mem⟩] at neither
    cases neither
  rcases joined_cases hS hx with ⟨stays, -⟩ | ⟨e, letters, he, -, hl, hJ⟩
  · rw [stays, Option.bind_some]
    cases hst : setting? c with
    | none => rfl
    | some st => exact if_neg fun h => other st hst h.1 h.2.1 (by simp [h.2.2])
  · have hme := mem_entries_of_scaleSide? hx he
    obtain ⟨rfl, hst, -⟩ := scaleSide?_eq_some_iff.mp he
    rcases hJ with hJ | hJ <;> rw [hJ]
    · rfl
    refine if_neg fun h => ?_
    obtain ⟨hv, hb, rfl⟩ : e.variant = variant ∧ e.box = box ∧ letters = [a.axis] := h
    rcases hl with ⟨hl, -⟩ | ⟨hl, -⟩
    · cases hl
    by_cases side : e.side = a
    · exact other _ hst hv hb (by simp [ScaleSide.setting, ScaleSide.spelled, side])
    obtain rfl := hS.unique_entry hj hme hv hb (eq_opposite hl.symm side)
    rw [joined_of_pair hS hx he notFour (by rw [opposite_opposite]; exact hi),
      if_neg (Nat.not_lt_of_lt lt)] at hJ
    cases hJ

/-- the class for the axis that comes from the two stands where the first one stood -/
theorem last?_axis_of_first (hA : Single classes variant box [a.axis]) :
    last? (consolidate classes) variant box [a.axis] =
      if lastBy (Setting.among? variant box [[a.axis], [a.letter]]) (settings classes)
          = some [a.axis] then
        last? classes variant box [a.axis]
      else some ("", t) := by
  have undefined := fun (x : String × Nat) (hx : x ∈ classes.zipIdx) =>
    axis_of_neither hS hi hj lt notFour hx
  rw [last?, lastBy_consolidate, lastBy_settings]
  cases hT : lastBy (fun x => (setting? x.1).bind
      (Setting.among? variant box [[a.axis], [a.letter]])) classes.zipIdx with
  | none =>
    obtain ⟨c, hc, hst, -⟩ := mem_entries_iff.mp hi
    have absent := undefined _ hc (lastBy_eq_none_iff.mp hT _ hc)
    rw [axis_of_first hS hi hj lt notFour hc hst rfl rfl rfl] at absent
    cases absent
  | some letters =>
    obtain ⟨⟨c, k⟩, hx, hk⟩ := exists_of_lastBy hT
    obtain ⟨st, hst, hm⟩ := Option.bind_eq_some_iff.mp hk
    obtain ⟨hv, hb, rfl, mem⟩ := Setting.among?_eq_some_iff.mp hm
    by_cases axis : st.letters = [a.axis]
    · have last : last? classes variant box [a.axis] = some (st.sign, st.value) :=
        hA.last?_eq_some_iff.mpr ⟨c, k, hx, by rw [hst, ← hv, ← hb, ← axis]⟩
      rw [if_pos (congrArg some axis), last]
      refine lastBy_of_lastBy hT undefined ?_
      rintro ⟨d, l⟩ hy hd
      obtain ⟨st', hst', hm'⟩ := Option.bind_eq_some_iff.mp hd
      obtain ⟨hv', hb', hl', -⟩ := Setting.among?_eq_some_iff.mp hm'
      obtain ⟨-, rfl⟩ := hA.unique_setting hx hy hst hst' ⟨hv, hb, axis⟩
        ⟨hv', hb', hl'.trans axis⟩
      rw [joined_of_shorthand hst' fun s e => side_letter_ne_axis s a (e.symm.trans axis),
        Option.bind_some, hst']
      exact if_pos ⟨hv, hb, axis⟩
    · rw [if_neg fun e => axis (Option.some.inj e)]
      have side : st.letters = [a.letter] := by simpa [axis] using mem
      refine lastBy_of_lastBy hT undefined ?_
      rintro ⟨d, l⟩ hy hd
      obtain ⟨st', hst', hm'⟩ := Option.bind_eq_some_iff.mp hd
      obtain ⟨hv', hb', hl', -⟩ := Setting.among?_eq_some_iff.mp hm'
      exact axis_of_first hS hi hj lt notFour hy hst' hv' hb' (hl'.trans side)

end

omit hS in
theorem index_ne {i j : Nat} {t u : String} (hi : ⟨i, variant, box, s, t⟩ ∈ entries classes)
    (hj : ⟨j, variant, box, s.opposite, u⟩ ∈ entries classes) : i ≠ j := by
  obtain ⟨c, hc, hst, -⟩ := mem_entries_iff.mp hi
  obtain ⟨d, hd, hst', -⟩ := mem_entries_iff.mp hj
  rintro rfl
  have same : some c = some d :=
    (List.mk_mem_zipIdx_iff_getElem?.mp hc).symm.trans (List.mk_mem_zipIdx_iff_getElem?.mp hd)
  obtain rfl := Option.some.inj same
  have letters : [s.letter] = [s.opposite.letter] :=
    congrArg Setting.letters (Option.some.inj (hst.symm.trans hst'))
  revert letters
  cases s <;> decide

/-- `last?_axis_of_first` where it is not known which of the two comes first -/
theorem last?_axis_of_pair (hA : Single classes variant box [s.axis]) {t : String}
    (hs : Level classes variant box s t)
    (ho : Level classes variant box s.opposite t)
    (notFour : ¬ ∀ w, Level classes variant box w t) :
    ∃ a, (a = s ∨ a = s.opposite) ∧ last? (consolidate classes) variant box [s.axis] =
      if lastBy (Setting.among? variant box [[s.axis], [a.letter]]) (settings classes)
          = some [s.axis] then
        last? classes variant box [s.axis]
      else some ("", t) := by
  obtain ⟨i, hi⟩ := (level_iff hS).mp hs
  obtain ⟨j, hj⟩ := (level_iff hS).mp ho
  rcases Nat.lt_or_gt_of_ne (index_ne hi hj) with lt | lt
  · exact ⟨s, .inl rfl, last?_axis_of_first hS hi hj lt notFour hA⟩
  · have hi' : ⟨i, variant, box, s.opposite.opposite, t⟩ ∈ entries classes := by
      rw [opposite_opposite]
      exact hi
    have axis : s.opposite.axis = s.axis := by cases s <;> rfl
    refine ⟨s.opposite, .inr rfl, ?_⟩
    rw [← axis] at hA ⊢
    exact last?_axis_of_first hS hj hi' lt notFour hA

/-! ## effective spacing afterwards -/

theorem effective?_of_apart
    (apart : ∀ t, Level classes variant box s t → ¬ Level classes variant box s.opposite t) :
    effective? (consolidate classes) variant box s = effective? classes variant box s := by
  have noPair (u : Side) (t : String) (hu : u.axis = s.axis) (own : Level classes variant box u t)
      (opposite : Level classes variant box u.opposite t) :
      ∀ w, Level classes variant box w t := by
    by_cases same : u = s
    · exact absurd (same ▸ opposite) (apart t (same ▸ own))
    · obtain rfl := eq_opposite (congrArg (fun c => [c]) hu) same
      rw [opposite_opposite] at opposite
      exact absurd own (apart t opposite)
  have plain := last?_plain_same hS fun t four => apart t (four s) (four s.opposite)
  rw [effective?, effective?, last?_side_of_apart hS apart, last?_axis_same hS noPair, plain]

theorem effective?_of_four {t : String} (four : ∀ w, Level classes variant box w t)
    (bare : last? classes variant box [] = none) :
    effective? (consolidate classes) variant box s =
      (last? classes variant box [s.axis]).or (some ("", t)) := by
  have onlyFour (u : Side) (t' : String) (_ : u.axis = s.axis)
      (own : Level classes variant box u t') (_ : Level classes variant box u.opposite t') :
      ∀ w, Level classes variant box w t' :=
    own.token_eq (four u) ▸ four
  rw [effective?, last?_side_of_pair hS (four s) (four s.opposite), last?_axis_same hS onlyFour,
    last?_plain_of_four hS four bare, Option.none_or]

theorem effective?_of_pair (hA : Single classes variant box [s.axis]) {t : String}
    (hs : Level classes variant box s t)
    (ho : Level classes variant box s.opposite t)
    (notFour : ¬ ∀ w, Level classes variant box w t) :
    ∃ a, (a = s ∨ a = s.opposite) ∧ effective? (consolidate classes) variant box s =
      if lastBy (Setting.among? variant box [[s.axis], [a.letter]]) (settings classes)
          = some [s.axis] then
        last? classes variant box [s.axis]
      else some ("", t) := by
  obtain ⟨a, ha, axis⟩ := last?_axis_of_pair hS hA hs ho notFour
  refine ⟨a, ha, ?_⟩
  have given : last? (consolidate classes) variant box [s.axis] ≠ none := by
    rw [axis]
    split
    · next h => exact last?_ne_none_of_among h
    · exact Option.some_ne_none _
  rw [effective?, last?_side_of_pair hS hs ho, Option.none_or,
    Option.or_of_isSome (Option.isSome_iff_ne_none.mpr given), axis]

end

end Handoff.ClassList
