import Handoff.ClassList.Modern
import Handoff.Proofs.ClassList.Tidied

/-!
# Classes that are words

For display and for the position every class is one word.  Of the words for one of them behind one
variant the last takes effect.  The clean-up and the newer spelling have nothing to do with them, so
what is said of this word stays.

* `wordGroups`            the groups of such classes;
* `group?_word_iff`       the bases of the classes in them;
* `lastBy_finalize`       the clean-up keeps what is said of the last class of a group that no pass
                          handles;
* `lastBy_finalize_word`, `lastBy_modernize_word`   so it does for words, and so does the newer
                          spelling;
* `IsWord`, `word?`       a word that holds at all widths;
* `shows?`                whether the last class for display behind a variant shows, which the
                          clean-up and the newer spelling leave as it is.
-/

namespace Handoff.ClassList

/-- the groups whose classes are words, with which no pass has to do -/
def wordGroups : List String := ["display", "position"]

def namesOf (group : String) : List String :=
  (exactGroups.filter fun e => e.2 = group).map Prod.fst

/-! ## bases -/

theorem exactGroups_word : ∀ group ∈ wordGroups, ∀ e ∈ exactGroups,
    e.2 = group ↔ e.1 ∈ namesOf group := by
  decide

theorem lookup_word : ∀ group ∈ wordGroups, ∀ name ∈ namesOf group,
    exactGroups.lookup name = some group := by
  decide

theorem leadGroups_not_word : ∀ e ∈ leadGroups, e.2 ∉ wordGroups := by decide

theorem otherGroups_not_word : ∀ group ∈ wordGroups, group ∉ otherGroups := by decide

section
variable {group : String}

theorem group?_word_iff (hg : group ∈ wordGroups) {base : String} :
    group? base = some group ↔ (signed base).2 ∈ namesOf group := by
  constructor
  · intro h
    rcases group?_cases h with exact | ⟨e, he, same, -⟩ | other
    · exact (exactGroups_word group hg _ exact).mp rfl
    · exact absurd (same ▸ hg) (leadGroups_not_word e he)
    · exact absurd other (otherGroups_not_word group hg)
  · intro name
    rw [group?, getD_dropPrefix?, lookup_word group hg _ name]

/-- the bases in a group are its names, behind a sign perhaps -/
theorem mem_signedNames (hg : group ∈ wordGroups) {base : String} (h : group? base = some group) :
    base ∈ namesOf group ++ (namesOf group).map ("-" ++ ·) := by
  have name := (group?_word_iff hg).mp h
  have written : base = (signed base).1 ++ (signed base).2 := by
    rw [← String.toList_inj, String.toList_append, ← toList_signed]
  rcases signed_fst base with sign | sign
  · rw [sign, String.empty_append] at written
    exact List.mem_append_left _ (written ▸ name)
  · rw [sign] at written
    exact List.mem_append_right _ (List.mem_map.mpr ⟨_, name, written.symm⟩)

end

theorem groupKey?_eq_some_iff {cls variant group : String} :
    groupKey? cls = some (variant, group) ↔
      variantOf cls = variant ∧ group? (baseOf cls) = some group := by
  rw [groupKey?, Option.map_eq_some_iff]
  constructor
  · rintro ⟨g, hg, e⟩
    obtain ⟨rfl, rfl⟩ := Prod.mk.inj e
    exact ⟨rfl, hg⟩
  · rintro ⟨rfl, hg⟩
    exact ⟨_, hg, rfl⟩

/-! ## the clean-up -/

theorem lastBy_filter {α β : Type} {f : α → Option β} {p : α → Bool} {l : List α}
    (h : ∀ a ∈ l, p a = false → f a = none) : lastBy f (l.filter p) = lastBy f l := by
  induction l with
  | nil => rfl
  | cons a l ih =>
    obtain ⟨ha, hl⟩ := List.forall_mem_cons.mp h
    rw [List.filter_cons, lastBy_cons]
    cases hp : p a with
    | true => rw [if_pos rfl, lastBy_cons, ih hl]
    | false => rw [if_neg Bool.false_ne_true, ih hl, ha hp, Option.or_none]

/-- the classes that the clean-up drops or adds on its own -/
def handled : List String := flexDefaults ++ ["self-stretch", "justify-start", "items-start"]

section
variable {β : Type} {f : String → Option β}

theorem lastBy_others (h : ∀ c, isSpacing c = true → f c = none) (classes : List String) :
    lastBy f (others classes) = lastBy f classes :=
  lastBy_filter fun c _ hp => h c (by simpa using hp)

theorem lastBy_unstretched (h : ∀ c ∈ handled, f c = none) (beside classes : List String) :
    lastBy f (unstretched beside classes) = lastBy f classes := by
  unfold unstretched
  split
  · refine lastBy_filter fun c _ hp => h c ?_
    have stretch : c = "self-stretch" := by simpa using hp
    rw [stretch]
    decide
  · rfl

theorem lastBy_aligned (h : ∀ c ∈ handled, f c = none) (beside classes : List String) :
    lastBy f (aligned beside classes) = lastBy f classes := by
  have kept : lastBy f (classes.filter fun c => !flexDefaults.contains c) = lastBy f classes := by
    refine lastBy_filter fun c _ hp => h c (List.mem_append_left _ ?_)
    rw [Bool.not_eq_false', List.contains_iff_mem] at hp
    exact hp
  have start (b : Bool) {cls : String} (hc : cls ∈ handled) :
      lastBy f (if b then [] else [cls]) = none := by
    cases b with
    | true => rfl
    | false => exact (lastBy_singleton f cls).trans (h cls hc)
  unfold aligned
  dsimp only
  split
  · rw [lastBy_append, lastBy_append, start _ (by decide), start _ (by decide), Option.none_or,
      Option.none_or, kept]
  · exact kept

/-- the clean-up keeps what is said of the last class of a group, unless this is for spacing or a
pass drops or adds it on its own -/
theorem lastBy_finalize (grouped : Grouped f) (spacing : ∀ c, isSpacing c = true → f c = none)
    (h : ∀ c ∈ handled, f c = none) (tolerance : Float) (classes : List String) :
    lastBy f (finalize tolerance classes) = lastBy f classes := by
  rw [← lastBy_others spacing, finalize, others_dropStretch, lastBy_unstretched h,
    others_consolidate, others_normalizeFlex, lastBy_aligned h, others_dropNegativeGaps,
    others_snap, others_dedupe, others_expandOverridden, lastBy_dedupe grouped,
    lastBy_others spacing]

end

theorem handled_not_word : ∀ group ∈ wordGroups, ∀ c ∈ handled, group? (baseOf c) ≠ some group := by
  decide

theorem isSpacing_of_word {group : String} (hg : group ∈ wordGroups) {c : String}
    (h : group? (baseOf c) = some group) : isSpacing c = false := by
  have plain : ∀ group ∈ wordGroups, (some group).any spacingGroups.contains = false := by decide
  rw [isSpacing, h]
  exact plain group hg

section
variable {β : Type} {f : String → Option β} {group : String}

/-- the clean-up keeps what is said of the last word of a group -/
theorem lastBy_finalize_word (hg : group ∈ wordGroups) (grouped : Grouped f)
    (word : ∀ c, group? (baseOf c) ≠ some group → f c = none) (tolerance : Float)
    (classes : List String) : lastBy f (finalize tolerance classes) = lastBy f classes := by
  refine lastBy_finalize grouped (fun c spacing => word c fun h => ?_)
    (fun c hc => word c (handled_not_word group hg c hc)) tolerance classes
  rw [isSpacing_of_word hg h] at spacing
  cases spacing

end

/-- a class of a group that holds at all widths -/
def IsWord (group cls : String) : Prop := groupKey? cls = some ("", group)

instance (group cls : String) : Decidable (IsWord group cls) :=
  inferInstanceAs (Decidable (groupKey? cls = _))

/-- of a word of a group, the word itself -/
def word? (group cls : String) : Option String := if IsWord group cls then some cls else none

theorem word?_eq_some_iff {group cls w : String} :
    word? group cls = some w ↔ IsWord group cls ∧ cls = w := by
  unfold word?
  split
  · next own => exact Option.some_inj.trans (and_iff_right own).symm
  · next other => exact iff_of_false nofun fun h => other h.1

theorem word?_eq_none {group cls : String} (h : group? (baseOf cls) ≠ some group) :
    word? group cls = none :=
  if_neg fun own => h (groupKey?_eq_some_iff.mp own).2

theorem grouped_word? (group : String) : Grouped (word? group) := by
  intro c hc
  obtain ⟨w, hw⟩ := Option.isSome_iff_exists.mp hc
  obtain ⟨own, -⟩ := word?_eq_some_iff.mp hw
  refine ⟨by rw [show groupKey? c = _ from own]; rfl, fun d hd => ?_⟩
  exact Option.isSome_iff_exists.mpr ⟨d, word?_eq_some_iff.mpr ⟨hd.trans own, rfl⟩⟩

theorem lastBy_word?_ne_none {group cls : String} {classes : List String} (hc : cls ∈ classes)
    (own : IsWord group cls) : lastBy (word? group) classes ≠ none := fun none =>
  nomatch (word?_eq_some_iff.mpr ⟨own, rfl⟩).symm.trans (lastBy_eq_none_iff.mp none cls hc)

/-- a word is a name of its group, behind a sign perhaps -/
theorem mem_names_of_isWord {group cls : String} (hg : group ∈ wordGroups)
    (h : IsWord group cls) : cls ∈ namesOf group ++ (namesOf group).map ("-" ++ ·) := by
  obtain ⟨variant, own⟩ := groupKey?_eq_some_iff.mp h
  have base := mem_signedNames hg own
  have whole := variantOf_append_baseOf cls
  rw [variant, String.empty_append] at whole
  rwa [whole] at base

/-! ## the newer spelling -/

theorem modernizeBase?_word : ∀ group ∈ wordGroups,
    ∀ base ∈ namesOf group ++ (namesOf group).map ("-" ++ ·), modernizeBase? base = some base := by
  decide

/-- characters that no word ends with -/
def closers : List Char := [')', '!', ']']

theorem last_word : ∀ group ∈ wordGroups, ∀ name ∈ namesOf group,
    name.toList ≠ [] ∧ name.toList.getLast? ∉ closers.map some := by decide

theorem renames_plain : ∀ e ∈ renames, e.2.toList.all inert = true ∧
    ∀ group ∈ wordGroups, group? e.2 ≠ some group := by decide

theorem word_track : ∀ group ∈ wordGroups, ∀ name ∈ namesOf group,
    ¬ "grid-".toList <+: name.toList := by decide

/-- commas become underscores -/
theorem toList_replaceComma (s : String) : (Text.replaceChar ',' "_" s).toList
    = s.toList.map fun c => if c = ',' then '_' else c := by
  rw [Text.replaceChar, Text.toList_onChars, Chars.replaceChar, List.map_eq_flatMap]
  refine congrArg (List.flatMap · s.toList) (funext fun c => ?_)
  split <;> rfl

theorem cutVariant?_replaceComma {base : String} (h : cutVariant? 0 base.toList = none) :
    cutVariant? 0 (Text.replaceChar ',' "_" base).toList = none := by
  rw [cutVariant?_eq_none_iff] at h ⊢
  rw [toList_replaceComma]
  refine (colonless_map (fun c => ?_) fun depth c => ?_).mpr h
  · by_cases comma : c = ','
    · simp [comma]
    · rw [if_neg comma]
  · by_cases comma : c = ','
    · subst comma; rfl
    · rw [if_neg comma]

theorem begins_trackList {base : String} (track : isTrackList base = true) :
    "grid-".toList <+: (Text.replaceChar ',' "_" base).toList := by
  have begins : "grid-".toList <+: base.toList := by
    rw [isTrackList, Bool.and_eq_true, Bool.or_eq_true, startsWith_iff, startsWith_iff] at track
    rcases track.1 with cols | rows
    · exact List.IsPrefix.trans (by decide) cols
    · exact List.IsPrefix.trans (by decide) rows
  rw [toList_replaceComma]
  exact begins.map fun c => if c = ',' then '_' else c

section
variable {group : String} (hg : group ∈ wordGroups)
include hg

/-- a word is written in the same way -/
theorem modernize?_of_word {c : String} (h : group? (baseOf c) = some group) :
    modernize? c = some c := by
  rw [modernize?, modernizeBase?_word group hg _ (mem_signedNames hg h), Option.map_some,
    variantOf_append_baseOf]

theorem not_word_of_last {cls : String} {c : Char} (hc : c ∈ closers)
    (h : cls.toList.getLast? = some c) : group? (baseOf cls) ≠ some group := by
  intro word
  obtain ⟨ne, last⟩ := last_word group hg _ ((group?_word_iff hg).mp word)
  rw [toList_class, toList_signed (baseOf cls), ← List.append_assoc,
    List.getLast?_append_of_ne_nil _ ne] at h
  exact last (h ▸ List.mem_map_of_mem hc)

theorem not_word_of_bracket (front : String) : group? (baseOf (front ++ "px]")) ≠ some group :=
  not_word_of_last hg (c := ']') (by decide) (by simp)

theorem not_word_of_trackList {base : String} (track : isTrackList base = true) :
    group? (Text.replaceChar ',' "_" base) ≠ some group := by
  have begins := begins_trackList track
  obtain ⟨rest, written⟩ := id begins
  intro word
  have name := (group?_word_iff hg).mp word
  rw [signed_eq (by decide) written.symm (.inl rfl) rfl] at name
  exact word_track group hg _ name begins

/-- no word comes from another class -/
theorem not_word_of_modernize? {c d : String} (hc : group? (baseOf c) ≠ some group)
    (h : modernize? c = some d) : group? (baseOf d) ≠ some group := by
  obtain ⟨base, hbase, rfl⟩ := Option.map_eq_some_iff.mp h
  have closed (front : String) (x : Char) (hx : x ∈ closers) :
      group? (baseOf (variantOf c ++ (front ++ String.singleton x))) ≠ some group :=
    not_word_of_last hg hx (by simp)
  have kept {b : String} (hb : cutVariant? 0 b.toList = none) : baseOf (variantOf c ++ b) = b := by
    rw [baseOf, splitVariant_replaced c hb]
  cases rewriting_of_modernizeBase? hbase with
  | renamed found =>
    obtain ⟨plain, other⟩ := renames_plain _ found
    rw [kept (cutVariant?_of_inert plain)]
    exact other group hg
  | parenthesized found =>
    simp only [variableShorthand?, Option.bind_eq_bind, Option.bind_eq_some_iff, Option.pure_def,
      Option.some.injEq] at found
    obtain ⟨_, -, _, -, _, -, rfl⟩ := found
    exact closed _ ')' (by decide)
  | tracks track =>
    rw [kept (cutVariant?_replaceComma (cutVariant?_baseOf c))]
    exact not_word_of_trackList hg track
  | marked => exact closed _ '!' (by decide)
  | same =>
    rw [variantOf_append_baseOf]
    exact hc

/-- the newer spelling keeps what is said of the last word of a group -/
theorem lastBy_modernize_word {β : Type} {f : String → Option β}
    (word : ∀ c, group? (baseOf c) ≠ some group → f c = none) (classes : List String) :
    lastBy f (modernize classes) = lastBy f classes := by
  rw [modernize, lastBy_filterMap]
  refine lastBy_congr fun c _ => ?_
  by_cases own : group? (baseOf c) = some group
  · rw [modernize?_of_word hg own, Option.bind_some]
  · rw [word c own, Option.bind_eq_none_iff]
    exact fun d hd => word d (not_word_of_modernize? hg own hd)

end

/-! ## the class for display that takes effect -/

/-- of a class for display behind this variant, whether it shows -/
def showing? (variant cls : String) : Option Bool :=
  if groupKey? cls = some (variant, "display") then some (baseOf cls != "hidden") else none

def shows? (variant : String) (classes : List String) : Option Bool :=
  lastBy (showing? variant) classes

theorem display_of_showing? {variant cls : String} (h : (showing? variant cls).isSome = true) :
    variantOf cls = variant ∧ group? (baseOf cls) = some "display" := by
  unfold showing? at h
  split at h
  · next key => exact groupKey?_eq_some_iff.mp key
  · cases h

theorem showing?_eq_none {variant cls : String} (h : group? (baseOf cls) ≠ some "display") :
    showing? variant cls = none :=
  if_neg fun key => h (groupKey?_eq_some_iff.mp key).2

theorem grouped_showing? (variant : String) : Grouped (showing? variant) := by
  intro c hc
  obtain ⟨v, g⟩ := display_of_showing? hc
  have key : groupKey? c = some (variant, "display") := groupKey?_eq_some_iff.mpr ⟨v, g⟩
  refine ⟨by rw [key]; rfl, fun d hd => ?_⟩
  rw [showing?, if_pos (hd.trans key)]
  rfl

theorem shows?_finalize (variant : String) (tolerance : Float) (classes : List String) :
    shows? variant (finalize tolerance classes) = shows? variant classes :=
  lastBy_finalize_word (List.mem_cons_self : "display" ∈ wordGroups) (grouped_showing? variant)
    (fun _ => showing?_eq_none) tolerance classes

theorem shows?_modernize (variant : String) (classes : List String) :
    shows? variant (modernize classes) = shows? variant classes :=
  lastBy_modernize_word (List.mem_cons_self : "display" ∈ wordGroups) (fun _ => showing?_eq_none)
    classes

end Handoff.ClassList
