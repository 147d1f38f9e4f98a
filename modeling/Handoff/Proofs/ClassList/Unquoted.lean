import Handoff.ClassList.Modern
import Handoff.Proofs.ClassList.Passes
import Handoff.Proofs.Utility.Unquoted
import Handoff.Utility.Declaration

/-!
# Class lists and quotes

A text is taken apart into classes at its blanks, and all that the clean-up changes of a class are
letters, signs and tokens.  So a quote among the classes of an element was in what they are made from.

* `unquoted_split_iff`        the classes of a text have the quotes of the text;
* `unquoted_classesOf`        the classes of a declaration have those of its value;
* `Setting.unquoted_toClass`  a spacing class that is written with other letters;
* `unquoted_finalize`, `unquoted_modernize`   cleaned up and modernized.
-/

namespace Handoff.ClassList

/-! ## classes of texts -/

theorem flatten_consFirst (c : Char) (ps : List (List Char)) :
    (consFirst c ps).flatten = c :: ps.flatten := by
  cases ps <;> rfl

/-- the pieces have all characters that are no blanks -/
theorem mem_flatten_pieces {c : Char} (hc : Chars.isBlank c = false) {cs : List Char} :
    ∀ {depth : Nat}, c ∈ (pieces depth cs).flatten ↔ c ∈ cs := by
  induction cs with
  | nil => exact Iff.rfl
  | cons d cs ih =>
    intro depth
    unfold pieces
    split
    · next blank =>
      have ne : c ≠ d := by
        rintro rfl
        rw [blank.1] at hc
        cases hc
      rw [List.flatten_cons, List.nil_append, ih, List.mem_cons, or_iff_right ne]
    · rw [flatten_consFirst, List.mem_cons, List.mem_cons, ih]

theorem unquoted_split_iff {s : String} : (∀ cls ∈ split s, Unquoted cls) ↔ Unquoted s := by
  have quote : '"' ∈ (pieces 0 s.toList).flatten ↔ '"' ∈ s.toList := mem_flatten_pieces (by decide)
  rw [Unquoted, ← quote, List.mem_flatten, not_exists]
  constructor
  · rintro all w ⟨hw, hq⟩
    refine unquoted_ofList.mp (all (String.ofList w) (List.mem_map_of_mem ?_)) hq
    refine List.mem_filter.mpr ⟨hw, ?_⟩
    cases w with
    | nil => exact absurd hq List.not_mem_nil
    | cons => rfl
  · intro none cls hcls
    obtain ⟨w, hw, rfl⟩ := List.mem_map.mp hcls
    exact unquoted_ofList.mpr fun hq => none w ⟨(List.mem_filter.mp hw).1, hq⟩

theorem unquoted_classesOf (property : String) {value : String} (hv : Unquoted value) :
    ∀ cls ∈ Utility.classesOf property value, Unquoted cls :=
  unquoted_split_iff.mpr (Utility.clean_ofDeclaration property hv)

theorem unquoted_ofStyles {s : Styles} (h : ∀ d ∈ s.entries, Unquoted d.2.show) :
    ∀ cls ∈ Utility.ofStyles s, Unquoted cls := by
  intro cls hcls
  obtain ⟨d, hd, hcls⟩ := List.mem_flatMap.mp hcls
  exact unquoted_classesOf d.1 (h d hd) cls hcls

/-! ## one class -/

variable {cls : String}

theorem unquoted_class_iff : Unquoted cls ↔ Unquoted (variantOf cls) ∧ Unquoted (baseOf cls) := by
  rw [← unquoted_append_iff, variantOf_append_baseOf]

/-- the letters for sides are no quotes -/
theorem Setting.unquoted_toClass {st : Setting} (h : setting? cls = some st)
    {letters : List Char} (hl : letters ∈ spellings) (hc : Unquoted cls) :
    Unquoted { st with letters := letters }.toClass := by
  obtain ⟨variant, base, sign, -⟩ := setting?_eq_some_iff.mp h
  obtain ⟨hv, hb⟩ := unquoted_class_iff.mp hc
  have value : '"' ∉ st.value.toList := by
    rw [Unquoted, base, Setting.chars] at hb
    intro quote
    exact hb (by simp [quote])
  have front : '"' ∉ st.sign.toList ∧ '"' ≠ st.box.letter ∧ '"' ∉ letters := by
    refine ⟨?_, ?_, ?_⟩
    · rcases sign with e | e <;> rw [e] <;> decide
    · cases st.box <;> decide
    · exact (by decide : ∀ letters ∈ spellings, '"' ∉ letters) letters hl
  refine (variant ▸ hv).append (unquoted_ofList.mpr ?_)
  simp [Setting.chars, front, value]

theorem unquoted_expandOne (own : List (String × Box × Side)) (hc : Unquoted cls) :
    ∀ d ∈ expandOne own cls, Unquoted d := by
  rcases expandOne_cases own cls with stays | ⟨st, sides, hst, hl, made⟩
  · rw [stays]
    exact List.forall_mem_singleton.mpr hc
  · intro d hd
    obtain ⟨s, rfl⟩ := made d hd
    exact Setting.unquoted_toClass hst (mem_spellings_of_side s) hc

theorem unquoted_snapOne (tolerance : Float) (hc : Unquoted cls) :
    Unquoted (snapOne tolerance cls) := by
  have plain : ∀ token ∈ Utility.spacingScale.map Prod.snd, Unquoted token := by decide
  unfold snapOne
  dsimp only
  cases h : snappedUtilities.findSome? _ with
  | none => exact hc
  | some snapped =>
    obtain ⟨u, hu, hs⟩ := List.exists_of_findSome?_eq_some h
    obtain ⟨px, -, hs⟩ := Option.bind_eq_some_iff.mp hs
    obtain ⟨token, ht, rfl⟩ := Option.map_eq_some_iff.mp hs
    have utility := (by decide : ∀ u ∈ snappedUtilities, Unquoted u) u hu
    exact (((unquoted_class_iff.mp hc).1.append utility).append (by decide)).append
      (plain token (mem_scale_of_nearestToken? ht))

/-! ## clean-up -/

variable {classes : List String}

theorem unquoted_addUnless {lead : String} (hc : Unquoted cls)
    (h : ∀ c ∈ classes, Unquoted c) : ∀ c ∈ addUnless lead cls classes, Unquoted c := by
  unfold addUnless
  split
  · exact h
  · exact List.forall_mem_append.mpr ⟨h, List.forall_mem_singleton.mpr hc⟩

theorem unquoted_normalizeFlex (h : ∀ c ∈ classes, Unquoted c) :
    ∀ c ∈ normalizeFlex classes, Unquoted c := by
  have kept : ∀ c ∈ classes.filter fun c => !flexDefaults.contains c, Unquoted c :=
    fun c hc => h c (List.mem_of_mem_filter hc)
  unfold normalizeFlex
  dsimp only
  split
  · exact unquoted_addUnless (by decide) (unquoted_addUnless (by decide) kept)
  · exact kept

theorem unquoted_consolidate (h : ∀ c ∈ classes, Unquoted c) :
    ∀ c ∈ consolidate classes, Unquoted c := by
  intro d hd
  obtain ⟨⟨c, i⟩, hx, hd⟩ := List.mem_filterMap.mp hd
  have hd : joined (entries classes) (c, i) = some d := hd
  have hc := h c (List.fst_mem_of_mem_zipIdx hx)
  rcases joined_before hx with stays | ⟨e, he, ⟨letters, hl, becomes⟩ | ⟨drops, -⟩⟩
  · rw [stays] at hd
    exact Option.some.inj hd ▸ hc
  · rw [becomes] at hd
    rw [← Option.some.inj hd]
    exact Setting.unquoted_toClass (scaleSide?_eq_some_iff.mp he).2.1 hl hc
  · rw [drops] at hd
    cases hd

theorem unquoted_dropStretch (h : ∀ c ∈ classes, Unquoted c) :
    ∀ c ∈ dropStretch classes, Unquoted c := by
  unfold dropStretch
  split
  · exact fun c hc => h c (List.mem_of_mem_filter hc)
  · exact h

theorem unquoted_finalize (tolerance : Float) (h : ∀ c ∈ classes, Unquoted c) :
    ∀ c ∈ finalize tolerance classes, Unquoted c := by
  have expanded : ∀ c ∈ expandOverridden classes, Unquoted c := fun c hc => by
    obtain ⟨d, hd, hc⟩ := List.mem_flatMap.mp hc
    exact unquoted_expandOne _ (h d hd) c hc
  have snapped : ∀ c ∈ snap tolerance (dedupe (expandOverridden classes)), Unquoted c :=
    fun c hc => by
      obtain ⟨d, hd, rfl⟩ := List.mem_map.mp hc
      exact unquoted_snapOne tolerance (expanded d (mem_dedupeAfter hd))
  exact unquoted_dropStretch (unquoted_consolidate (unquoted_normalizeFlex fun c hc =>
    snapped c (List.mem_of_mem_filter hc)))

/-! ## the newer spelling -/

theorem unquoted_splitHint {inner : String} (h : Unquoted inner) :
    Unquoted (splitHint inner).1 ∧ Unquoted (splitHint inner).2 := by
  have none : Unquoted "" ∧ Unquoted inner := ⟨by decide, h⟩
  unfold splitHint
  split
  · next cut =>
    obtain ⟨before, after⟩ := h.cut? cut
    split
    · exact ⟨before.append (by decide), after⟩
    · exact none
  · exact none

theorem unquoted_customProperty? {value name : String} (hv : Unquoted value)
    (h : customProperty? value = some name) : Unquoted name := by
  unfold customProperty? at h
  split at h
  · exact Option.some.inj h ▸ hv
  · obtain ⟨call, hcall, h⟩ := Option.bind_eq_some_iff.mp h
    obtain ⟨args, hargs, h⟩ := Option.bind_eq_some_iff.mp h
    have inside := (hv.dropPrefix? hcall).dropSuffix? hargs
    dsimp only at h
    split at h
    · exact Option.some.inj h ▸ (inside.firstPart ',').trim
    · cases h

theorem unquoted_variableShorthand? {base short : String} (hb : Unquoted base)
    (h : variableShorthand? base = some short) : Unquoted short := by
  unfold variableShorthand? at h
  obtain ⟨⟨utility, rest⟩, hcut, h⟩ := Option.bind_eq_some_iff.mp h
  obtain ⟨inner, hinner, h⟩ := Option.bind_eq_some_iff.mp h
  obtain ⟨name, hname, h⟩ := Option.bind_eq_some_iff.mp h
  obtain ⟨front, behind⟩ := hb.cut? hcut
  obtain ⟨hint, value⟩ := unquoted_splitHint (behind.dropSuffix? hinner)
  rw [← Option.some.inj h]
  exact (((front.append (by decide)).append hint).append
    (unquoted_customProperty? value hname)).append (by decide)

theorem unquoted_modernizeBase? {base modern : String} (hb : Unquoted base)
    (h : modernizeBase? base = some modern) : Unquoted modern := by
  have plain : ∀ e ∈ renames, Unquoted e.2 := by decide
  cases rewriting_of_modernizeBase? h with
  | renamed found => exact plain _ found
  | parenthesized found => exact unquoted_variableShorthand? hb found
  | tracks => exact hb.replaceChar (by decide)
  | marked found => exact (hb.dropPrefix? (Option.filter_eq_some_iff.mp found).1).append (by decide)
  | same => exact hb

theorem unquoted_modernize (h : ∀ c ∈ classes, Unquoted c) : ∀ c ∈ modernize classes, Unquoted c := by
  intro d hd
  obtain ⟨c, hc, hd⟩ := List.mem_filterMap.mp hd
  obtain ⟨base, hbase, rfl⟩ := Option.map_eq_some_iff.mp hd
  obtain ⟨variant, own⟩ := unquoted_class_iff.mp (h c hc)
  exact variant.append (unquoted_modernizeBase? own hbase)

end Handoff.ClassList
