import Handoff.Proofs.ClassList.Words
import Handoff.Proofs.Utility.Leads

/-!
# A margin on its own

The passes over spacing take shorthands apart and join equal sides.  The class for the margin of one
side gives them nothing to do, as long as there is no other class for a margin at all widths: it is
snapped to the scale, and the newer spelling leaves it as it is.

* `IsMargin`, `margins`     the classes for margins at all widths;
* `isMargin_iff`            how they begin;
* `margins_finalize`        what the clean-up makes of the only one;
* `margins_modernize`       what is there of them in the newer spelling.
-/

namespace Handoff.ClassList
open Utility

/-- a class for a margin, whatever its sides, at all widths -/
def IsMargin (cls : String) : Prop :=
  ∃ letters ∈ spellings, groupKey? cls = some ("", groupName .margin letters)

instance (cls : String) : Decidable (IsMargin cls) :=
  inferInstanceAs (Decidable (∃ letters ∈ spellings, _ = _))

def margins (classes : List String) : List String := classes.filter fun c => IsMargin c

theorem margins_append (a b : List String) : margins (a ++ b) = margins a ++ margins b :=
  List.filter_append ..

theorem mem_margins {c : String} {classes : List String} :
    c ∈ margins classes ↔ c ∈ classes ∧ IsMargin c := by
  rw [margins, List.mem_filter, decide_eq_true_eq]

theorem margins_eq_nil {classes : List String} (h : ∀ c ∈ classes, ¬ IsMargin c) :
    margins classes = [] :=
  List.filter_eq_nil_iff.mpr fun c hc => by rw [decide_eq_true_eq]; exact h c hc

theorem margins_singleton {c : String} (h : IsMargin c) : margins [c] = [c] :=
  List.filter_eq_self.mpr (List.forall_mem_singleton.mpr (decide_eq_true h))

/-! ## what a margin is -/

theorem isMargin_iff_setting {cls : String} : IsMargin cls ↔
    ∃ st, setting? cls = some st ∧ st.variant = "" ∧ st.box = .margin ∧ st.letters ∈ spellings := by
  constructor
  · rintro ⟨letters, hl, key⟩
    obtain ⟨st, hst, variant, box, rfl⟩ := (groupKey?_eq_iff hl).mp key
    exact ⟨st, hst, variant, box, hl⟩
  · rintro ⟨st, hst, variant, box, hl⟩
    exact ⟨st.letters, hl, (groupKey?_eq_iff hl).mpr ⟨st, hst, variant, box, rfl⟩⟩

theorem isMargin_of_setting {cls : String} {st : Setting} (h : setting? cls = some st)
    (hl : st.letters ∈ spellings) : IsMargin cls ↔ st.variant = "" ∧ st.box = .margin := by
  rw [isMargin_iff_setting]
  constructor
  · rintro ⟨st', h', variant, box, -⟩
    obtain rfl := Option.some.inj (h.symm.trans h')
    exact ⟨variant, box⟩
  · exact fun ⟨variant, box⟩ => ⟨st, h, variant, box, hl⟩

theorem boxLeads_signed : ∀ l ∈ boxLeads "m", ∃ sign ∈ ["", "-"], ∃ letters ∈ spellings,
    l.toList = sign.toList ++ lead .margin letters := by decide

theorem exists_boxLead : ∀ sign ∈ ["", "-"], ∀ letters ∈ spellings, ∃ l ∈ boxLeads "m",
    l.toList = sign.toList ++ lead .margin letters := by decide

/-- a class for a margin is known by how it begins -/
theorem isMargin_iff {cls : String} :
    IsMargin cls ↔ variantOf cls = "" ∧ Begins (boxLeads "m") (baseOf cls) := by
  constructor
  · rintro ⟨letters, hl, key⟩
    obtain ⟨variant, group⟩ := groupKey?_eq_some_iff.mp key
    obtain ⟨rest, begins⟩ := (group?_eq_iff hl).mp group
    obtain ⟨l, mem, e⟩ := exists_boxLead (signed (baseOf cls)).1
      (by simpa using signed_fst (baseOf cls)) letters hl
    refine ⟨variant, l, mem, rest, ?_⟩
    rw [e, List.append_assoc, begins, ← toList_signed]
  · rintro ⟨variant, l, mem, rest, begins⟩
    obtain ⟨sign, hs, letters, hl, e⟩ := boxLeads_signed l mem
    refine ⟨letters, hl, groupKey?_eq_some_iff.mpr ⟨variant, (group?_eq_iff hl).mpr ⟨rest, ?_⟩⟩⟩
    have tail : (String.ofList (lead .margin letters ++ rest)).toList
        = 'm' :: (letters ++ ['-'] ++ rest) := String.toList_ofList
    rw [signed_eq (by decide) tail (by simpa using hs) (by
      rw [← begins, e, String.toList_ofList, List.append_assoc]), String.toList_ofList]

theorem IsMargin.isSpacing {cls : String} (h : IsMargin cls) : isSpacing cls = true := by
  obtain ⟨st, hst, -, -, hl⟩ := isMargin_iff_setting.mp h
  exact isSpacing_of_setting hst hl

/-- a list with the same spacing has the same margins -/
theorem margins_of_spacings {as bs : List String} (h : spacings as = spacings bs) :
    margins as = margins bs := by
  have among (l : List String) : margins l = (spacings l).filter fun c => IsMargin c := by
    rw [margins, spacings, List.filter_filter]
    refine List.filter_congr fun c _ => ?_
    by_cases margin : IsMargin c
    · rw [margin.isSpacing, Bool.and_true]
    · rw [decide_eq_false margin, Bool.false_and]
  rw [among, among, h]

/-! ## each pass -/

section
variable {α : Type} {l : List α}

theorem margins_flatMap {f : α → List String} {g : α → String}
    (h : ∀ a ∈ l, margins (f a) = margins [g a]) : margins (l.flatMap f) = margins (l.map g) := by
  rw [List.map_eq_flatMap, margins, margins, List.filter_flatMap, List.filter_flatMap]
  exact List.flatMap_congr h

theorem margins_filterMap {f : α → Option String} {g : α → String}
    (h : ∀ a ∈ l, margins (f a).toList = margins [g a]) :
    margins (l.filterMap f) = margins (l.map g) := by
  rw [List.filterMap_eq_flatMap_toList]
  exact margins_flatMap h

end

/-- a class for the margin of one side -/
def IsSide (cls : String) : Prop :=
  IsMargin cls ∧ ∃ st, setting? cls = some st ∧ ∃ s : Side, st.letters = [s.letter]

theorem margins_expandOne (own : List (String × Box × Side)) {cls : String}
    (sided : IsMargin cls → IsSide cls) : margins (expandOne own cls) = margins [cls] := by
  rcases expandOne_cases own cls with stays | ⟨st, sides, hst, hl, made⟩
  · rw [stays]
  · have spelled := mem_spellings_of_sides hl
    have other : ¬ IsMargin cls := fun margin => by
      obtain ⟨-, st', hst', s, letters⟩ := sided margin
      obtain rfl := Option.some.inj (hst.symm.trans hst')
      exact letter_ne_of_sides hl s letters.symm
    rw [margins_eq_nil (List.forall_mem_singleton.mpr other), margins_eq_nil fun d hd => ?_]
    obtain ⟨s, rfl⟩ := made d hd
    have side := mem_spellings_of_side s
    rw [isMargin_of_setting (setting?_toClass hst spelled side) side]
    exact fun same => other ((isMargin_of_setting hst spelled).mpr same)

theorem margins_expandOverridden {classes : List String}
    (sided : ∀ c ∈ margins classes, IsSide c) :
    margins (expandOverridden classes) = margins classes := by
  rw [expandOverridden, margins_flatMap fun c hc =>
    margins_expandOne _ fun margin => sided c (mem_margins.mpr ⟨hc, margin⟩), List.map_id']

theorem dedupeAfter_sublist : ∀ classes seen : List String,
    (dedupeAfter seen classes).Sublist classes := by
  intro classes
  induction classes with
  | nil => exact fun _ => .slnil
  | cons c cs ih =>
    intro seen
    unfold dedupeAfter
    split
    · exact (ih seen).cons c
    split
    · exact (ih seen).cons c
    · exact (ih (c :: seen)).cons_cons c

/-- the only class for a margin is the last of its group -/
theorem margins_dedupe {classes : List String} (one : (margins classes).length ≤ 1) :
    margins (dedupe classes) = margins classes := by
  let margin? : String → Option String := fun c => if IsMargin c then some c else none
  have defined {c : String} : margin? c ≠ none ↔ IsMargin c := by
    by_cases own : IsMargin c <;> simp [margin?, own]
  have grouped : Grouped margin? := by
    intro c hc
    obtain ⟨letters, hl, key⟩ := defined.mp (Option.isSome_iff_ne_none.mp hc)
    refine ⟨by rw [key]; rfl, fun d hd => ?_⟩
    exact Option.isSome_iff_ne_none.mpr (defined.mpr ⟨letters, hl, hd.trans key⟩)
  have sub : (margins (dedupe classes)).Sublist (margins classes) :=
    (dedupeAfter_sublist classes []).filter _
  refine sub.eq_of_length_le (Nat.not_lt.mp fun fewer => ?_)
  have lost : margins (dedupe classes) = [] := List.length_eq_zero_iff.mp (by omega)
  obtain ⟨c, hc⟩ := List.exists_mem_of_length_pos (Nat.lt_of_le_of_lt (Nat.zero_le _) fewer)
  obtain ⟨hc, own⟩ := mem_margins.mp hc
  have last : lastBy margin? (dedupe classes) ≠ none := by
    rw [lastBy_dedupe grouped]
    exact fun none => defined.mpr own (lastBy_eq_none_iff.mp none c hc)
  obtain ⟨b, hb⟩ := Option.ne_none_iff_exists'.mp last
  obtain ⟨d, hd, found⟩ := exists_of_lastBy hb
  have given : margin? d ≠ none := fun none => nomatch found.symm.trans none
  have left : d ∈ margins (dedupe classes) := mem_margins.mpr ⟨hd, defined.mp given⟩
  rw [lost] at left
  cases left

theorem snappedUtilities_margin : ∀ u ∈ snappedUtilities,
    u ++ "-" ∈ boxLeads "m" ∨ Apart [u ++ "-"] (boxLeads "m") := by decide

theorem isMargin_snapOne_iff (tolerance : Float) (cls : String) :
    IsMargin (snapOne tolerance cls) ↔ IsMargin cls := by
  rcases snapOne_cases tolerance cls with stays | ⟨u, hu, token, -, before, snapped⟩
  · rw [stays]
  · have variant : variantOf (snapOne tolerance cls) = variantOf cls := by
      rw [variantOf, snapped]
    have after : (u ++ "-").toList <+: (baseOf (snapOne tolerance cls)).toList := by
      rw [baseOf, snapped]
      exact ⟨token.toList, String.toList_append.symm⟩
    have before : (u ++ "-").toList <+: (baseOf cls).toList := by
      rwa [String.toList_append]
    rw [isMargin_iff, isMargin_iff, variant]
    refine and_congr_right fun _ => ?_
    rcases snappedUtilities_margin u hu with mem | apart
    · exact iff_of_true ⟨_, mem, after⟩ ⟨_, mem, before⟩
    · have front {base : String} (h : (u ++ "-").toList <+: base.toList) :
          ¬ Begins (boxLeads "m") base :=
        Begins.not_begins ⟨_, List.mem_singleton_self _, h⟩ apart
      exact iff_of_false (front after) (front before)

theorem margins_snap (tolerance : Float) (classes : List String) :
    margins (snap tolerance classes) = snap tolerance (margins classes) := by
  have same : (fun c => decide (IsMargin c)) ∘ snapOne tolerance
      = fun c => decide (IsMargin c) := by
    funext c
    simp only [Function.comp_apply, isMargin_snapOne_iff]
  rw [margins, snap, List.filter_map, same, snap, margins]

theorem negativeGapLeads_apart : Apart negativeGapLeads (boxLeads "m") := by decide

theorem margins_dropNegativeGaps (classes : List String) :
    margins (dropNegativeGaps classes) = margins classes := by
  rw [margins, margins, dropNegativeGaps, List.filter_filter]
  refine List.filter_congr fun c _ => ?_
  by_cases margin : IsMargin c
  · have stays : negativeGapLeads.any (fun l => Text.startsWith l (baseOf c)) = false := by
      rw [← Bool.not_eq_true, List.any_eq_true]
      rintro ⟨l, hl, starts⟩
      exact Begins.not_begins ⟨l, hl, startsWith_iff.mp starts⟩ negativeGapLeads_apart
        (isMargin_iff.mp margin).2
    rw [stays, Bool.not_false, Bool.and_true]
  · rw [decide_eq_false margin, Bool.false_and]

/-- a class stays if it is for the only side of its box -/
theorem joined_alone {classes : List String} {c : String} {i : Nat}
    (alone : ∀ e, scaleSide? (c, i) = some e → ∀ o ∈ entries classes,
      o.variant = e.variant → o.box = e.box → o.side = e.side) :
    joined (entries classes) (c, i) = some c := by
  unfold joined
  cases he : scaleSide? (c, i) with
  | none => rfl
  | some e =>
    have unequal : (lastOn? (entries classes) e.variant e.box e.side.opposite).filter
        (fun o => o.token = e.token) = none := by
      rw [Option.eq_none_iff_forall_ne_some]
      intro o ho
      obtain ⟨mem, variant, box, side⟩ := mem_of_lastOn? (Option.filter_eq_some_iff.mp ho).1
      rw [alone e he o mem variant box] at side
      exact absurd side (by cases e.side <;> decide)
    dsimp only
    split
    · rfl
    · rw [if_neg, unequal]
      intro four
      have all := length_filterMap_all.mp four e.side.opposite
      rw [unequal] at all
      cases all

theorem margins_joined {classes : List String} (one : (margins classes).length ≤ 1)
    {x : String × Nat} (hx : x ∈ classes.zipIdx) : margins (joined (entries classes) x).toList = margins [x.1] := by
  obtain ⟨c, i⟩ := x
  by_cases margin : IsMargin c
  · have stays : joined (entries classes) (c, i) = some c := by
      refine joined_alone fun e he o ho variant box => ?_
      obtain ⟨d, hd, hs, -⟩ := mem_entries_iff.mp ho
      have setting := (scaleSide?_eq_some_iff.mp he).2.1
      obtain ⟨variant', box'⟩ :=
        (isMargin_of_setting setting (mem_spellings_of_side e.side)).mp margin
      have other : IsMargin d := (isMargin_of_setting hs (mem_spellings_of_side o.side)).mpr
        ⟨variant.trans variant', box.trans box'⟩
      obtain ⟨m, hm⟩ := List.length_eq_one_iff.mp (Nat.le_antisymm one
        (List.length_pos_of_mem (mem_margins.mpr ⟨List.fst_mem_of_mem_zipIdx hx, margin⟩)))
      have only {d : String} {j : Nat} (hd : (d, j) ∈ classes.zipIdx) (own : IsMargin d) : d = m :=
        List.mem_singleton.mp (hm ▸ mem_margins.mpr ⟨List.fst_mem_of_mem_zipIdx hd, own⟩)
      rw [only hd other, ← only hx margin, setting] at hs
      exact (side_letter_inj.mp (congrArg Setting.letters (Option.some.inj hs))).symm
    rw [stays, Option.toList_some]
  · rw [margins_eq_nil (List.forall_mem_singleton.mpr margin)]
    refine margins_eq_nil fun d hd => ?_
    have joined := Option.mem_toList.mp hd
    rcases joined_before hx with stays | ⟨e, he, ⟨letters, hl, becomes⟩ | ⟨goes, -⟩⟩
    · obtain rfl := Option.some.inj (stays.symm.trans joined)
      exact margin
    · obtain rfl := Option.some.inj (becomes.symm.trans joined)
      have setting := (scaleSide?_eq_some_iff.mp he).2.1
      rw [isMargin_of_setting (setting?_spelled he hl) hl]
      have own := isMargin_of_setting setting (mem_spellings_of_side e.side)
      exact fun same => margin (own.mpr same)
    · rw [goes] at joined
      cases joined

theorem margins_consolidate {classes : List String} (one : (margins classes).length ≤ 1) :
    margins (consolidate classes) = margins classes := by
  refine (margins_filterMap fun x hx => margins_joined one hx).trans ?_
  rw [List.zipIdx_map_fst]

/-- the clean-up only snaps the class for the margin of one side, if there is no other -/
theorem margins_finalize (tolerance : Float) {classes : List String}
    (one : (margins classes).length ≤ 1) (sided : ∀ c ∈ margins classes, IsSide c) :
    margins (finalize tolerance classes) = snap tolerance (margins classes) := by
  have snapped : margins (snap tolerance (dedupe (expandOverridden classes)))
      = snap tolerance (margins classes) := by
    rw [margins_snap, margins_dedupe (by rw [margins_expandOverridden sided]; exact one),
      margins_expandOverridden sided]
  have aligned : margins (normalizeFlex (dropNegativeGaps
      (snap tolerance (dedupe (expandOverridden classes)))))
        = snap tolerance (margins classes) := by
    rw [margins_of_spacings (spacings_normalizeFlex _), margins_dropNegativeGaps, snapped]
  rw [finalize, margins_of_spacings (spacings_dropStretch _), margins_consolidate, aligned]
  rw [aligned, snap, List.length_map]
  exact one

/-! ## the newer spelling -/

theorem baseOf_of_plain {cls : String} (h : variantOf cls = "") : baseOf cls = cls := by
  have whole := variantOf_append_baseOf cls
  rwa [h, String.empty_append] at whole

/-- a class that is not marked as important in the older way, unless it has a variant -/
def Unmarked (cls : String) : Prop := variantOf cls = "" → ¬ Begins ["!"] cls

theorem unmarked_of_isSpacing {cls : String} (h : isSpacing cls = true) : Unmarked cls := by
  have table : ∀ l ∈ spacingLeads, ¬ "!".toList <+: l ∧ ¬ l <+: "!".toList := by decide
  obtain ⟨l, hl, begins⟩ := isSpacing_iff.mp h
  rintro plain ⟨mark, mem, marked⟩
  rw [← baseOf_of_plain plain] at marked
  obtain rfl := List.mem_singleton.mp mem
  obtain ⟨rest, e⟩ := id marked
  rw [signed_eq (by decide : '!' ≠ '-') e.symm (.inl rfl) rfl] at begins
  rcases List.prefix_or_prefix_of_prefix marked begins with inner | inner
  · exact (table l hl).1 inner
  · exact (table l hl).2 inner

theorem mem_of_mem_tidied {beside classes : List String} {c : String}
    (h : c ∈ tidied beside classes) : c ∈ classes ∨ c ∈ handled := by
  have counted : c ∈ counting classes ∨ c ∈ handled := by
    have aligned : c ∈ aligned beside (counting classes) := by
      unfold tidied unstretched at h
      split at h
      · exact List.mem_of_mem_filter h
      · exact h
    have start {b : Bool} {cls : String} (hc : c ∈ if b then [] else [cls]) : c = cls := by
      cases b with
      | true => cases hc
      | false => exact List.mem_singleton.mp hc
    unfold ClassList.aligned at aligned
    dsimp only at aligned
    split at aligned
    · rcases List.mem_append.mp aligned with aligned | new
      · rcases List.mem_append.mp aligned with kept | new
        · exact .inl (List.mem_of_mem_filter kept)
        · exact .inr (start new ▸ by decide)
      · exact .inr (start new ▸ by decide)
    · exact .inl (List.mem_of_mem_filter aligned)
  refine counted.imp_left fun counted => ?_
  obtain ⟨⟨d, i⟩, hx, rfl⟩ := List.mem_map.mp counted
  exact List.fst_mem_of_mem_zipIdx (List.mem_of_mem_filter hx)

theorem unmarked_finalize (tolerance : Float) {classes : List String}
    (h : ∀ c ∈ classes, Unmarked c) : ∀ c ∈ finalize tolerance classes, Unmarked c := by
  have plain : ∀ c ∈ handled, ¬ Begins ["!"] c := by decide
  intro c hc
  cases hs : isSpacing c with
  | true => exact unmarked_of_isSpacing hs
  | false =>
    have other : c ∈ others (finalize tolerance classes) := mem_others.mpr ⟨hc, hs⟩
    rw [others_finalize] at other
    rcases mem_of_mem_tidied other with mem | mem
    · exact h c (mem_others.mp mem).1
    · exact fun _ => plain c mem

/-- what stands behind a variant never holds at all widths -/
theorem variantOf_append_ne {cls : String} (h : variantOf cls ≠ "") (base : String) :
    variantOf (variantOf cls ++ base) ≠ "" := by
  intro plain
  have parts : variantOf (variantOf cls ++ base) = variantOf cls ++ variantOf base :=
    congrArg Prod.fst (splitVariant_behind cls base)
  rw [parts, String.append_eq_empty_iff] at plain
  exact h plain.1

theorem prefix_of_prefix_append {p a b : List Char} {x : Char} (h : p <+: a ++ x :: b)
    (other : x ∉ p) : p <+: a := by
  rcases List.prefix_or_prefix_of_prefix h (List.prefix_append a _) with inner | ⟨q, rfl⟩
  · exact inner
  · rw [List.prefix_append_right_inj] at h
    cases q with
    | nil => simp
    | cons y q =>
      obtain ⟨rfl, -⟩ := List.cons_prefix_cons.mp h
      exact absurd (by simp) other

/-- no class for a margin comes from another class, but from one that is marked as important -/
theorem isMargin_of_modernize? {c d : String} (unmarked : Unmarked c) (h : modernize? c = some d)
    (own : IsMargin d) : IsMargin c := by
  obtain ⟨base, hbase, rfl⟩ := Option.map_eq_some_iff.mp h
  obtain ⟨variant, begins⟩ := isMargin_iff.mp own
  have plain : variantOf c = "" := by_contra fun given => variantOf_append_ne given base variant
  have same : variantOf c ++ base = base := by rw [plain, String.empty_append]
  rw [same] at variant begins
  rw [baseOf_of_plain variant] at begins
  refine isMargin_iff.mpr ⟨plain, ?_⟩
  cases rewriting_of_modernizeBase? hbase with
  | renamed found =>
    have table : ∀ e ∈ renames, ¬ Begins (boxLeads "m") e.2 := by decide
    exact absurd begins (table _ found)
  | parenthesized found =>
    simp only [variableShorthand?, Option.bind_eq_bind, Option.bind_eq_some_iff, Option.pure_def,
      Option.some.injEq] at found
    obtain ⟨⟨utility, rest⟩, cut, _, -, _, -, rfl⟩ := found
    have closed : ∀ l ∈ boxLeads "m", '(' ∉ l.toList := by decide
    obtain ⟨l, mem, front⟩ := begins
    simp only [String.toList_append, List.append_assoc] at front
    obtain ⟨written, -⟩ := Text.cut?_eq_some_iff.mp cut
    refine ⟨l, mem, (prefix_of_prefix_append front (closed l mem)).trans ?_⟩
    rw [written]
    exact List.prefix_append _ _
  | tracks track =>
    have apart : Apart ["grid-"] (boxLeads "m") := by decide
    have front := begins_trackList track
    exact absurd begins (Begins.not_begins ⟨_, List.mem_singleton_self _, front⟩ apart)
  | marked found =>
    obtain ⟨found, -⟩ := Option.filter_eq_some_iff.mp found
    obtain ⟨cs, e, rfl⟩ := Option.map_eq_some_iff.mp found
    have marked : Begins ["!"] (baseOf c) :=
      ⟨"!", List.mem_singleton_self _, cs, (Chars.dropPrefix?_eq_some.mp e).symm⟩
    rw [baseOf_of_plain plain] at marked
    exact absurd marked (unmarked plain)
  | same => exact begins

/-- without a custom property, a class for a margin is written in the same way -/
theorem modernize?_of_isMargin {cls : String} (margin : IsMargin cls)
    (plain : variableShorthand? (baseOf cls) = none) : modernize? cls = some cls := by
  have begins := (isMargin_iff.mp margin).2
  have other {leads : List String} (apart : Apart leads (boxLeads "m")) {l : String}
      (mem : l ∈ leads) : ¬ l.toList <+: (baseOf cls).toList :=
    fun front => Begins.not_begins ⟨l, mem, front⟩ apart begins
  have renamed : renames.lookup (baseOf cls) = none := by
    refine List.lookup_eq_none_iff.mpr fun e he => bne_iff_ne.mpr fun same => ?_
    have table : ∀ e ∈ renames, ¬ Begins (boxLeads "m") e.1 := by decide
    exact table e he (same ▸ begins)
  have visible : isOpacityUtility (baseOf cls) = false := by
    have apart : Apart (["bg", "text", "border", "divide", "ring", "placeholder"].map
        (· ++ "-opacity-")) (boxLeads "m") := by decide
    refine List.any_eq_false.mpr fun u hu => ?_
    rw [dropPrefix?_eq_none (other apart (List.mem_map_of_mem hu))]
    exact Bool.false_ne_true
  have track : isTrackList (baseOf cls) = false := by
    have apart : Apart ["grid-cols-[", "grid-rows-["] (boxLeads "m") := by decide
    unfold isTrackList
    rw [Bool.eq_false_iff.mpr fun h => other apart (by decide) (startsWith_iff.mp h),
      Bool.eq_false_iff.mpr fun h => other apart (by decide) (startsWith_iff.mp h)]
    rfl
  have important : important? (baseOf cls) = none := by
    have apart : Apart ["!"] (boxLeads "m") := by decide
    rw [important?, dropPrefix?_eq_none (other apart (List.mem_singleton_self _))]
    rfl
  rw [modernize?, modernizeBase?, renamed, visible, plain, track, important]
  exact congrArg some (variantOf_append_baseOf cls)

theorem margins_modernize {classes : List String} (unmarked : ∀ c ∈ classes, Unmarked c)
    (same : ∀ c ∈ margins classes, modernize? c = some c) :
    margins (modernize classes) = margins classes := by
  refine (margins_filterMap (g := id) fun c hc => ?_).trans (by rw [List.map_id])
  show _ = margins [c]
  by_cases margin : IsMargin c
  · rw [same c (mem_margins.mpr ⟨hc, margin⟩)]
    rfl
  · rw [margins_eq_nil (List.forall_mem_singleton.mpr margin)]
    exact margins_eq_nil fun d hd own =>
      margin (isMargin_of_modernize? (unmarked c hc) (Option.mem_toList.mp hd) own)

/-! ## other classes -/

/-- a class that is for no margin at all widths, and for none in the newer spelling -/
def Elsewhere (cls : String) : Prop := variantOf cls = "" → ¬ Begins ("!" :: boxLeads "m") cls

theorem Elsewhere.not_isMargin {cls : String} (h : Elsewhere cls) : ¬ IsMargin cls := by
  intro margin
  obtain ⟨plain, begins⟩ := isMargin_iff.mp margin
  rw [baseOf_of_plain plain] at begins
  exact h plain (begins.mono fun _ => List.mem_cons_of_mem _)

theorem Elsewhere.unmarked {cls : String} (h : Elsewhere cls) : Unmarked cls := fun plain marked =>
  h plain (marked.mono (List.cons_subset.mpr ⟨List.mem_cons_self, List.nil_subset _⟩))

/-- what holds from some width on -/
theorem elsewhere_of_width {cls : String} (h : Begins ["md:", "lg:"] cls) : Elsewhere cls := by
  have cut : ∀ width ∈ ["md:", "lg:"], variantOf width = width ∧ width ≠ "" := by decide
  obtain ⟨width, mem, rest, e⟩ := h
  obtain ⟨own, filled⟩ := cut width mem
  have whole : cls = variantOf width ++ String.ofList rest := by
    rw [own, ← String.toList_inj, ← e, String.toList_append, String.toList_ofList]
  intro plain
  exact absurd (whole ▸ plain) (variantOf_append_ne (own.trans_ne filled) _)

end Handoff.ClassList
