import Handoff.ClassList.Cleanup
import Handoff.Proofs.ClassList.Variants

/-!
# Reading a spacing class

The passes over spacing each take a class apart in their own way.  `setting?` reads variant, sign,
box, letters and value at once; what a pass sees of a class is part of its setting.

* `setting?_eq_some_iff`   the setting of a class, letter by letter;
* `setting?_toClass`       a class written with other letters has the same setting otherwise;
* `side?_baseOf_iff`, `ownSide?_of_setting`, `expandOne_of_shorthand`, `expandOne_cases`   the
                           settings behind the readings of the passes;
* `group?_cases`, `group?_of_lead`   what tells the group of a base;
* `groupKey?_eq_iff`       the group of a spacing class is its variant, box and letters.
-/

namespace Handoff.ClassList

/-- `[-]<box><letters>-<value>` behind a variant -/
structure Setting where
  variant : String
  sign : String
  box : Box
  letters : List Char
  value : String
deriving DecidableEq, Repr

@[irreducible] def setting? (cls : String) : Option Setting :=
  (Text.cut? '-' (signed (baseOf cls)).2).bind fun (head, value) =>
    match head.toList with
    | c :: letters => (Box.ofLetter? c).map fun box =>
        ⟨variantOf cls, (signed (baseOf cls)).1, box, letters, value⟩
    | [] => none

/-- the letters that name all sides, an axis, or a side -/
def spellings : List (List Char) := [[], ['x'], ['y'], ['t'], ['r'], ['b'], ['l']]

/-! ## letters -/

theorem Box.ofLetter?_eq_some {c : Char} {box : Box} :
    Box.ofLetter? c = some box ↔ c = box.letter := by
  constructor
  · intro h
    unfold Box.ofLetter? at h
    repeat' split at h
    all_goals cases h
    all_goals assumption
  · rintro rfl
    cases box <;> rfl

theorem Side.ofLetter?_eq_some {c : Char} {s : Side} :
    Side.ofLetter? c = some s ↔ c = s.letter := by
  constructor
  · intro h
    unfold Side.ofLetter? at h
    repeat' split at h
    all_goals cases h
    all_goals assumption
  · rintro rfl
    cases s <;> rfl

theorem Box.letter_ne_dash (box : Box) : box.letter ≠ '-' := by cases box <;> decide

theorem mem_spellings_of_side (s : Side) : [s.letter] ∈ spellings := by cases s <;> decide

theorem mem_spellings_of_axis (s : Side) : [s.axis] ∈ spellings := by cases s <;> decide

theorem mem_spellings_of_sides {letters : List Char} {sides : List Side}
    (h : sidesOf? letters = some sides) : letters ∈ spellings := by
  unfold sidesOf? at h
  split at h
  · decide
  · decide
  · decide
  · cases h

theorem dash_not_mem {letters : List Char} (h : letters ∈ spellings) : '-' ∉ letters :=
  (by decide : ∀ letters ∈ spellings, '-' ∉ letters) letters h

/-! ## bases -/

theorem signed_fst (base : String) : (signed base).1 = "" ∨ (signed base).1 = "-" := by
  unfold signed
  split
  · exact .inr rfl
  · exact .inl rfl

theorem toList_signed (base : String) :
    base.toList = (signed base).1.toList ++ (signed base).2.toList := by
  unfold signed
  split
  · next rest h =>
    obtain ⟨cs, e, rfl⟩ := Option.map_eq_some_iff.mp h
    dsimp only
    rw [Chars.dropPrefix?_eq_some.mp e, String.toList_ofList (l := cs)]
  · rfl

/-- the sign is what stands in front of another character -/
theorem signed_eq {base sign rest : String} {c : Char} {cs : List Char} (hc : c ≠ '-')
    (hr : rest.toList = c :: cs) (hs : sign = "" ∨ sign = "-")
    (h : base.toList = sign.toList ++ rest.toList) : signed base = (sign, rest) := by
  rcases hs with rfl | rfl
  · have none : Text.dropPrefix? "-" base = none := by
      rw [Text.dropPrefix?, h, hr]
      exact congrArg _ (if_neg fun e => hc e.symm)
    rw [signed, none]
    exact congrArg _ (String.toList_inj.mp h)
  · have some : Text.dropPrefix? "-" base = some rest := by
      rw [Text.dropPrefix?, Chars.dropPrefix?_eq_some.mpr h, Option.map_some, String.ofList_toList]
    rw [signed, some]

/-- the base of a class with this setting -/
def Setting.chars (st : Setting) : List Char :=
  st.sign.toList ++ st.box.letter :: (st.letters ++ '-' :: st.value.toList)

theorem setting?_eq_some_iff {cls : String} {st : Setting} :
    setting? cls = some st ↔
      variantOf cls = st.variant ∧ (baseOf cls).toList = st.chars ∧
        (st.sign = "" ∨ st.sign = "-") ∧ '-' ∉ st.letters := by
  unfold setting?
  rw [Option.bind_eq_some_iff]
  constructor
  · rintro ⟨⟨head, value⟩, hc, h⟩
    obtain ⟨e, nd⟩ := Text.cut?_eq_some_iff.mp hc
    dsimp only at h
    split at h
    · next c letters eh =>
      obtain ⟨box, hb, rfl⟩ := Option.map_eq_some_iff.mp h
      obtain rfl := Box.ofLetter?_eq_some.mp hb
      rw [eh, List.mem_cons, not_or] at nd
      dsimp only
      refine ⟨rfl, ?_, signed_fst (baseOf cls), nd.2⟩
      rw [toList_signed, e, eh]
      rfl
    · cases h
  · obtain ⟨variant, sign, box, letters, value⟩ := st
    rintro ⟨rfl, e, hs, nd⟩
    have hsig : signed (baseOf cls)
        = (sign, String.ofList (box.letter :: (letters ++ '-' :: value.toList))) :=
      signed_eq box.letter_ne_dash (String.toList_ofList) hs
        (by rw [String.toList_ofList]; exact e)
    refine ⟨(String.ofList (box.letter :: letters), value), Text.cut?_eq_some_iff.mpr ?_, ?_⟩
    · rw [hsig, String.toList_ofList, String.toList_ofList]
      exact ⟨rfl, by rw [List.mem_cons, not_or]; exact ⟨box.letter_ne_dash.symm, nd⟩⟩
    · rw [hsig]
      dsimp only
      rw [String.toList_ofList]
      dsimp only
      rw [Box.ofLetter?_eq_some.mpr rfl, Option.map_some]

theorem side?_eq_some_iff {base value : String} {box : Box} {s : Side} :
    side? base = some (box, s, value) ↔
      base.toList = box.letter :: s.letter :: '-' :: value.toList := by
  unfold side?
  rw [Option.bind_eq_bind, Option.bind_eq_some_iff]
  constructor
  · rintro ⟨⟨head, value'⟩, hc, h⟩
    obtain ⟨e, -⟩ := Text.cut?_eq_some_iff.mp hc
    dsimp only at h
    split at h
    · next c d eh =>
      simp only [Option.bind_eq_bind, Option.bind_eq_some_iff, Option.pure_def,
        Option.some.injEq, Prod.mk.injEq] at h
      obtain ⟨box', hb, s', hs, rfl, rfl, rfl⟩ := h
      rw [e, eh, Box.ofLetter?_eq_some.mp hb, Side.ofLetter?_eq_some.mp hs]
      rfl
    · cases h
  · intro e
    have nd : '-' ∉ [box.letter, s.letter] := by cases box <;> cases s <;> decide
    refine ⟨(String.ofList [box.letter, s.letter], value), Text.cut?_eq_some_iff.mpr ?_, ?_⟩
    · rw [String.toList_ofList]
      exact ⟨e, nd⟩
    · dsimp only
      rw [String.toList_ofList]
      dsimp only
      rw [Box.ofLetter?_eq_some.mpr rfl, Side.ofLetter?_eq_some.mpr rfl]
      rfl

theorem shorthand?_eq_some_iff {base value : String} {box : Box} {sides : List Side} :
    shorthand? base = some (box, sides, value) ↔ ∃ letters, sidesOf? letters = some sides ∧
      base.toList = box.letter :: (letters ++ '-' :: value.toList) := by
  unfold shorthand?
  rw [Option.bind_eq_bind, Option.bind_eq_some_iff]
  constructor
  · rintro ⟨⟨head, value'⟩, hc, h⟩
    obtain ⟨e, -⟩ := Text.cut?_eq_some_iff.mp hc
    dsimp only at h
    split at h
    · next c letters eh =>
      simp only [Option.bind_eq_bind, Option.bind_eq_some_iff, Option.pure_def,
        Option.some.injEq, Prod.mk.injEq] at h
      obtain ⟨box', hb, sides', hs, rfl, rfl, rfl⟩ := h
      exact ⟨letters, hs, by rw [e, eh, Box.ofLetter?_eq_some.mp hb]; rfl⟩
    · cases h
  · rintro ⟨letters, hs, e⟩
    refine ⟨(String.ofList (box.letter :: letters), value), Text.cut?_eq_some_iff.mpr ?_, ?_⟩
    · rw [String.toList_ofList, List.mem_cons, not_or]
      exact ⟨e, box.letter_ne_dash.symm, dash_not_mem (mem_spellings_of_sides hs)⟩
    · dsimp only
      rw [String.toList_ofList]
      dsimp only
      rw [Box.ofLetter?_eq_some.mpr rfl, hs]
      rfl

/-! ## spacing classes as they are written -/

/-- a class as it is written -/
def Setting.toClass (st : Setting) : String := st.variant ++ String.ofList st.chars

/-- a spacing class is told by its variant and its setting -/
theorem setting?_eq_some_iff_toClass {cls : String} {st : Setting}
    (hs : st.sign = "" ∨ st.sign = "-") (hl : '-' ∉ st.letters) :
    setting? cls = some st ↔ variantOf cls = st.variant ∧ cls = st.toClass := by
  rw [setting?_eq_some_iff, and_iff_left (And.intro hs hl)]
  refine and_congr_right fun variant => ?_
  rw [← String.toList_inj, toList_class cls, Setting.toClass, String.toList_append,
    String.toList_ofList, variant, List.append_cancel_left_eq]

/-- of a spacing class only the value can hold a colon or a bracket -/
theorem cutVariant?_chars (st : Setting) (hs : st.sign = "" ∨ st.sign = "-")
    (hl : st.letters ∈ spellings) :
    cutVariant? 0 st.chars = none ↔ cutVariant? 0 st.value.toList = none := by
  have front : ∀ sign ∈ ["", "-"], ∀ letters ∈ spellings, ∀ box : Box,
      (sign.toList ++ box.letter :: (letters ++ ['-'])).all inert = true := by
    rintro sign hsign letters hletters (_ | _) <;> revert letters sign <;> decide
  rw [← cutVariant?_inert (front st.sign (by simpa using hs) st.letters hl st.box)
    st.value.toList]
  simp [Setting.chars]

/-- a spacing class that is written with other letters reads the same but for these -/
theorem setting?_toClass {cls : String} {st : Setting} (h : setting? cls = some st)
    (hl : st.letters ∈ spellings) {letters : List Char} (hl' : letters ∈ spellings) :
    setting? { st with letters := letters }.toClass = some { st with letters := letters } := by
  obtain ⟨hv, hb, hs, -⟩ := setting?_eq_some_iff.mp h
  have bare : cutVariant? 0 st.chars = none := hb ▸ cutVariant?_baseOf cls
  have bare' : cutVariant? 0 { st with letters := letters }.chars = none :=
    (cutVariant?_chars { st with letters := letters } hs hl').mpr
      ((cutVariant?_chars st hs hl).mp bare)
  rw [← String.toList_ofList (l := Setting.chars _)] at bare'
  have e := splitVariant_replaced cls bare'
  rw [hv] at e
  refine setting?_eq_some_iff.mpr ⟨congrArg Prod.fst e, ?_, hs, dash_not_mem hl'⟩
  rw [baseOf, Setting.toClass, e, String.toList_ofList]

/-! ## what the passes read -/

theorem sideClass_eq_toClass (variant sign : String) (box : Box) (s : Side) (value : String) :
    sideClass variant sign box s value
      = Setting.toClass ⟨variant, sign, box, [s.letter], value⟩ := by
  rw [← String.toList_inj]
  simp [sideClass, Setting.toClass, Setting.chars]

theorem side?_baseOf_iff {cls value : String} {box : Box} {s : Side} :
    side? (baseOf cls) = some (box, s, value) ↔
      setting? cls = some ⟨variantOf cls, "", box, [s.letter], value⟩ := by
  rw [side?_eq_some_iff, setting?_eq_some_iff]
  exact ⟨fun e => ⟨rfl, e, .inl rfl, dash_not_mem (mem_spellings_of_side s)⟩, fun h => h.2.1⟩

/-- a class for one side sets it on its own -/
theorem ownSide?_of_setting {cls : String} {st : Setting} {s : Side}
    (h : setting? cls = some st) (hl : st.letters = [s.letter]) :
    ownSide? cls = some (st.variant, st.box, s) := by
  obtain ⟨variant, sign, box, letters, value⟩ := st
  obtain rfl : letters = [s.letter] := hl
  obtain ⟨hv, hb, hs, -⟩ := setting?_eq_some_iff.mp h
  have trimmed : (Text.trimStartBy (· == '-') (baseOf cls)).toList
      = box.letter :: s.letter :: '-' :: value.toList := by
    rw [Text.trimStartBy, Text.toList_onChars, Chars.trimStartBy, hb]
    have stop : (box.letter == '-') = false := beq_false_of_ne box.letter_ne_dash
    rcases hs with rfl | rfl <;> simp [Setting.chars, stop]
  rw [ownSide?, side?_eq_some_iff.mpr trimmed, Option.map_some, hv]

theorem signed_baseOf {cls : String} {st : Setting} (h : setting? cls = some st) :
    signed (baseOf cls) =
      (st.sign, String.ofList (st.box.letter :: (st.letters ++ '-' :: st.value.toList))) := by
  obtain ⟨-, hb, hs, -⟩ := setting?_eq_some_iff.mp h
  exact signed_eq st.box.letter_ne_dash String.toList_ofList hs
    (by rw [String.toList_ofList]; exact hb)

/-- a shorthand over a side that is set on its own becomes classes for the others -/
theorem expandOne_of_shorthand (own : List (String × Box × Side)) {cls : String} {st : Setting}
    {sides : List Side} (h : setting? cls = some st) (hl : sidesOf? st.letters = some sides) :
    expandOne own cls =
      if sides.any fun s => own.contains (st.variant, st.box, s) then
        (sides.filter fun s => !own.contains (st.variant, st.box, s)).map fun s =>
          { st with letters := [s.letter] }.toClass
      else [cls] := by
  have hv : variantOf cls = st.variant := (setting?_eq_some_iff.mp h).1
  have read : shorthand? (String.ofList (st.box.letter :: (st.letters ++ '-' :: st.value.toList)))
      = some (st.box, sides, st.value) :=
    shorthand?_eq_some_iff.mpr ⟨st.letters, hl, String.toList_ofList⟩
  unfold expandOne
  rw [signed_baseOf h, hv]
  dsimp only
  rw [read]
  dsimp only
  simp only [sideClass_eq_toClass]

theorem expandOne_of_not_shorthand (own : List (String × Box × Side)) {cls : String}
    (h : ∀ st, setting? cls = some st → sidesOf? st.letters = none) :
    expandOne own cls = [cls] := by
  unfold expandOne
  dsimp only
  split
  · rfl
  · next box sides value hs =>
    obtain ⟨letters, hl, e⟩ := shorthand?_eq_some_iff.mp hs
    have read : setting? cls = some ⟨variantOf cls, (signed (baseOf cls)).1, box, letters, value⟩ :=
      setting?_eq_some_iff.mpr ⟨rfl, by rw [toList_signed, e]; rfl, signed_fst _,
        dash_not_mem (mem_spellings_of_sides hl)⟩
    rw [h _ read] at hl
    cases hl

/-- a class stays, or it is a shorthand, of which classes for single sides are left -/
theorem expandOne_cases (own : List (String × Box × Side)) (cls : String) :
    expandOne own cls = [cls] ∨ ∃ st sides, setting? cls = some st ∧
      sidesOf? st.letters = some sides ∧
        ∀ d ∈ expandOne own cls, ∃ s : Side, d = { st with letters := [s.letter] }.toClass := by
  by_cases wide : ∃ st, setting? cls = some st ∧ (sidesOf? st.letters).isSome = true
  · obtain ⟨st, hst, hl⟩ := wide
    obtain ⟨sides, hl⟩ := Option.isSome_iff_exists.mp hl
    have made := expandOne_of_shorthand own hst hl
    split at made
    · refine .inr ⟨st, sides, hst, hl, fun d hd => ?_⟩
      rw [made] at hd
      obtain ⟨s, -, rfl⟩ := List.mem_map.mp hd
      exact ⟨s, rfl⟩
    · exact .inl made
  · refine .inl (expandOne_of_not_shorthand own fun st hst => ?_)
    exact Option.not_isSome_iff_eq_none.mp fun given => wide ⟨st, hst, given⟩

/-! ## groups -/

/-- the name of a group of spacing classes -/
def groupName (box : Box) (letters : List Char) : String := String.ofList (box.letter :: letters)

def lead (box : Box) (letters : List Char) : List Char := box.letter :: (letters ++ ['-'])

theorem exactGroups_ne {letters : List Char} (hl : letters ∈ spellings) (box : Box) :
    ∀ e ∈ exactGroups, e.2 ≠ groupName box letters ∧ ¬ lead box letters <+: e.1.toList := by
  cases box <;> revert letters <;> decide

theorem leadGroups_eq {letters : List Char} (hl : letters ∈ spellings) (box : Box) :
    ∀ e ∈ leadGroups, e.2 = groupName box letters → e.1.toList = lead box letters := by
  cases box <;> revert letters <;> decide

theorem exists_leadGroup {letters : List Char} (hl : letters ∈ spellings) (box : Box) :
    ∃ e ∈ leadGroups, e.1.toList = lead box letters := by
  cases box <;> revert letters <;> decide

/-- no other group begins like one of spacing -/
theorem leadGroups_unique {letters : List Char} (hl : letters ∈ spellings) (box : Box) :
    ∀ e ∈ leadGroups, e.1.toList <+: lead box letters ∨ lead box letters <+: e.1.toList →
      e.2 = groupName box letters := by
  cases box <;> revert letters <;> decide

theorem getD_dropPrefix? (base : String) :
    (Text.dropPrefix? "-" base).getD base = (signed base).2 := by
  unfold signed
  cases Text.dropPrefix? "-" base <;> rfl

theorem startsWith_iff {piece s : String} :
    Text.startsWith piece s = true ↔ piece.toList <+: s.toList := by
  rw [Text.startsWith, Chars.startsWith, Option.isSome_iff_exists]
  exact exists_congr fun rest => Chars.dropPrefix?_eq_some.trans eq_comm

theorem dropPrefix?_eq_none {piece s : String} (h : ¬ piece.toList <+: s.toList) :
    Text.dropPrefix? piece s = none := by
  rw [Text.dropPrefix?, Option.map_eq_none_iff, Option.eq_none_iff_forall_ne_some]
  exact fun rest found => h ⟨rest, (Chars.dropPrefix?_eq_some.mp found).symm⟩

theorem cut?_eq_none {c : Char} {s : String} (h : c ∉ s.toList) : Text.cut? c s = none := by
  refine Option.eq_none_iff_forall_ne_some.mpr fun p found => h ?_
  rw [(Text.cut?_eq_some_iff (a := p.1) (b := p.2).mp found).1]
  exact List.mem_append_right _ List.mem_cons_self

/-- groups that are not told from a list of names -/
def otherGroups : List String := ["font-weight", "font-family", "font-size", "blur"]

theorem otherGroups_ne {letters : List Char} (hl : letters ∈ spellings) (box : Box) :
    groupName box letters ∉ otherGroups := by
  cases box <;> revert letters <;> decide

/-- what tells the group of a base, behind its sign -/
theorem group?_cases {base g : String} (h : group? base = some g) :
    ((signed base).2, g) ∈ exactGroups ∨
      (∃ e ∈ leadGroups, e.2 = g ∧ e.1.toList <+: (signed base).2.toList) ∨ g ∈ otherGroups := by
  unfold group? at h
  rw [getD_dropPrefix?] at h
  dsimp only at h
  split at h
  · next g' hg =>
    obtain ⟨l, l', e, -⟩ := List.lookup_eq_some_iff.mp hg
    obtain rfl := Option.some.inj h
    exact .inl (e ▸ List.mem_append_right _ List.mem_cons_self)
  split at h
  · next e he =>
    have starts := List.find?_some he
    exact .inr (.inl ⟨e, List.mem_of_find?_eq_some he, Option.some.inj h,
      startsWith_iff.mp starts⟩)
  · refine .inr (.inr ?_)
    unfold fontGroup? textGroup? at h
    repeat' split at h
    all_goals first
      | rw [← Option.some.inj h]; decide
      | cases h

/-- a base that begins like no name has the group of a beginning that fits -/
theorem group?_of_lead {base : String} {lead : List Char}
    (noName : ∀ e ∈ exactGroups, ¬ lead <+: e.1.toList)
    (known : ∃ e ∈ leadGroups, e.1.toList = lead) (h : lead <+: (signed base).2.toList) :
    ∃ e ∈ leadGroups, group? base = some e.2 ∧
      (e.1.toList <+: lead ∨ lead <+: e.1.toList) := by
  unfold group?
  rw [getD_dropPrefix?]
  dsimp only
  have unnamed : exactGroups.lookup (signed base).2 = none := by
    rw [List.lookup_eq_none_iff]
    intro e he
    refine bne_iff_ne.mpr fun eu => noName e he ?_
    exact eu ▸ h
  have found : leadGroups.find? (fun e => Text.startsWith e.1 (signed base).2) ≠ none := by
    obtain ⟨e, he, leads⟩ := known
    exact fun none => List.find?_eq_none.mp none e he (startsWith_iff.mpr (leads ▸ h))
  rw [unnamed]
  dsimp only
  split
  · next e he =>
    have starts := List.find?_some he
    exact ⟨e, List.mem_of_find?_eq_some he, rfl,
      List.prefix_or_prefix_of_prefix (startsWith_iff.mp starts) h⟩
  · next none => exact absurd none found

theorem group?_eq_iff {base : String} {box : Box} {letters : List Char}
    (hl : letters ∈ spellings) :
    group? base = some (groupName box letters) ↔
      lead box letters <+: (signed base).2.toList := by
  constructor
  · intro h
    rcases group?_cases h with exact | ⟨e, he, name, begins⟩ | other
    · exact absurd rfl (exactGroups_ne hl box _ exact).1
    · exact leadGroups_eq hl box e he name ▸ begins
    · exact absurd other (otherGroups_ne hl box)
  · intro h
    obtain ⟨e, he, found, nested⟩ :=
      group?_of_lead (fun e he => (exactGroups_ne hl box e he).2) (exists_leadGroup hl box) h
    rw [found, leadGroups_unique hl box e he nested]

theorem groupKey?_eq_iff {cls variant : String} {box : Box} {letters : List Char}
    (hl : letters ∈ spellings) :
    groupKey? cls = some (variant, groupName box letters) ↔
      ∃ st, setting? cls = some st ∧ st.variant = variant ∧ st.box = box ∧
        st.letters = letters := by
  have key : groupKey? cls = some (variant, groupName box letters) ↔
      group? (baseOf cls) = some (groupName box letters) ∧ variantOf cls = variant := by
    rw [groupKey?, Option.map_eq_some_iff]
    constructor
    · rintro ⟨g, hg, e⟩
      obtain ⟨rfl, rfl⟩ := Prod.mk.inj e
      exact ⟨hg, rfl⟩
    · rintro ⟨hg, rfl⟩
      exact ⟨_, hg, rfl⟩
  rw [key, group?_eq_iff hl]
  constructor
  · rintro ⟨⟨rest, e⟩, hv⟩
    refine ⟨⟨variant, (signed (baseOf cls)).1, box, letters, String.ofList rest⟩,
      setting?_eq_some_iff.mpr ⟨hv, ?_, ?_, dash_not_mem hl⟩, rfl, rfl, rfl⟩
    · rw [toList_signed, ← e]
      simp [Setting.chars, lead]
    · dsimp only
      exact signed_fst (baseOf cls)
  · rintro ⟨st, h, rfl, rfl, rfl⟩
    refine ⟨⟨st.value.toList, ?_⟩, (setting?_eq_some_iff.mp h).1⟩
    rw [signed_baseOf h, String.toList_ofList]
    simp [lead]

end Handoff.ClassList
