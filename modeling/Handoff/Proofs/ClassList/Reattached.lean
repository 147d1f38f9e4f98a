import Handoff.Proofs.ClassList.Margins
import Handoff.Proofs.ClassList.Shorthand

/-!
# Variants that are put back

A pass that rewrites a class takes it apart, changes the base, and puts the variant in front again.
What a class has then for a variant is that variant, as long as the new base is cut nowhere.  In the
clean-up it never is: what is new in it are letters and tokens of the scale.  The newer spelling takes
values out of their square brackets, and with them a colon perhaps.

* `KeepsVariants`          the classes of a list stand in the places of classes with their variants;
* `variantOf_expandOne`, `variantOf_snapOne`, `variantOf_joined`   what a pass rewrites keeps its
                           variant;
* `keepsVariants_finalize` so does what comes out of the whole clean-up, but for the alignment that it
                           writes out;
* `Reading.variantOf_short`   what stands in parentheses is cut at a hint, or at a colon of the name;
* `variants_reattached`    how classes are cut, and what it means for the passes.
-/

namespace Handoff.ClassList

/-! ## in the place of a class -/

/-- in the place of each class there are classes with its variant, or none -/
inductive KeepsVariants : List String → List String → Prop
  | nil : KeepsVariants [] []
  | cons {c : String} {cs made ds : List String} : (∀ d ∈ made, variantOf d = variantOf c) →
      KeepsVariants cs ds → KeepsVariants (c :: cs) (made ++ ds)

namespace KeepsVariants

variable {cs cs' ds ds' es : List String}

theorem of_sublist (h : ds.Sublist cs) : KeepsVariants cs ds := by
  induction h with
  | slnil => exact .nil
  | cons c _ ih =>
    have none : ∀ d ∈ ([] : List String), variantOf d = variantOf c := fun d hd => nomatch hd
    exact .cons none ih
  | cons_cons c _ ih => exact .cons (List.forall_mem_singleton.mpr rfl) ih

theorem exists_of_mem (h : KeepsVariants cs ds) {d : String} (hd : d ∈ ds) :
    ∃ c ∈ cs, variantOf d = variantOf c := by
  induction h with
  | nil => cases hd
  | @cons c cs made ds own _ ih =>
    rcases List.mem_append.mp hd with hd | hd
    · exact ⟨c, List.mem_cons_self, own d hd⟩
    · obtain ⟨c', hc', same⟩ := ih hd
      exact ⟨c', List.mem_cons_of_mem c hc', same⟩

theorem append (h : KeepsVariants cs ds) (h' : KeepsVariants cs' ds') :
    KeepsVariants (cs ++ cs') (ds ++ ds') := by
  induction h with
  | nil => exact h'
  | cons own _ ih =>
    rw [List.append_assoc]
    exact .cons own ih

/-- what stands in the place of a list is in two parts where the list is -/
theorem split (h : KeepsVariants (cs ++ cs') es) :
    ∃ ds ds', es = ds ++ ds' ∧ KeepsVariants cs ds ∧ KeepsVariants cs' ds' := by
  induction cs generalizing es with
  | nil => exact ⟨[], es, rfl, .nil, h⟩
  | cons c cs ih =>
    cases h with
    | @cons _ _ made rest own later =>
      obtain ⟨ds, ds', rfl, front, back⟩ := ih later
      exact ⟨made ++ ds, ds', (List.append_assoc ..).symm, .cons own front, back⟩

theorem trans (h : KeepsVariants cs ds) (h' : KeepsVariants ds es) : KeepsVariants cs es := by
  induction h generalizing es with
  | nil => exact h'
  | @cons c cs made ds own _ ih =>
    obtain ⟨front, back, rfl, first, later⟩ := h'.split
    refine .cons (fun d hd => ?_) (ih later)
    obtain ⟨m, hm, same⟩ := first.exists_of_mem hd
    exact same.trans (own m hm)

end KeepsVariants

section
variable {α : Type} {l : List α} {source : α → String}

theorem keepsVariants_flatMap {f : α → List String}
    (h : ∀ a ∈ l, ∀ d ∈ f a, variantOf d = variantOf (source a)) :
    KeepsVariants (l.map source) (l.flatMap f) := by
  induction l with
  | nil => exact .nil
  | cons a l ih =>
    obtain ⟨ha, hl⟩ := List.forall_mem_cons.mp h
    rw [List.map_cons, List.flatMap_cons]
    exact .cons ha (ih hl)

theorem keepsVariants_filterMap {f : α → Option String}
    (h : ∀ a ∈ l, ∀ d, f a = some d → variantOf d = variantOf (source a)) :
    KeepsVariants (l.map source) (l.filterMap f) := by
  rw [List.filterMap_eq_flatMap_toList]
  exact keepsVariants_flatMap fun a ha d hd => h a ha d (Option.mem_toList.mp hd)

end

/-! ## the clean-up -/

theorem variantOf_expandOne {own : List (String × Box × Side)} {cls d : String}
    (hd : d ∈ expandOne own cls) : variantOf d = variantOf cls := by
  rcases expandOne_cases own cls with stays | ⟨st, sides, hst, hl, made⟩
  · rw [stays, List.mem_singleton] at hd
    rw [hd]
  · obtain ⟨s, rfl⟩ := made d hd
    have read := setting?_toClass hst (mem_spellings_of_sides hl) (mem_spellings_of_side s)
    rw [(setting?_eq_some_iff.mp read).1, (setting?_eq_some_iff.mp hst).1]

theorem keepsVariants_expandOverridden (classes : List String) :
    KeepsVariants classes (expandOverridden classes) := by
  have kept : KeepsVariants (classes.map id) (expandOverridden classes) :=
    keepsVariants_flatMap fun c _ d hd => variantOf_expandOne hd
  rwa [List.map_id] at kept

theorem variantOf_snapOne (tolerance : Float) (cls : String) :
    variantOf (snapOne tolerance cls) = variantOf cls := by
  rcases snapOne_cases tolerance cls with stays | ⟨u, -, token, -, -, snapped⟩
  · rw [stays]
  · have same := congrArg Prod.fst snapped
    exact same

theorem keepsVariants_snap (tolerance : Float) (classes : List String) :
    KeepsVariants classes (snap tolerance classes) := by
  have kept : KeepsVariants (classes.map id) (classes.flatMap fun c => [snapOne tolerance c]) :=
    keepsVariants_flatMap fun c _ => List.forall_mem_singleton.mpr (variantOf_snapOne tolerance c)
  rwa [List.map_id, ← List.map_eq_flatMap] at kept

theorem variantOf_joined {classes : List String} {cls d : String} {i : Nat}
    (hx : (cls, i) ∈ classes.zipIdx) (hd : joined (entries classes) (cls, i) = some d) :
    variantOf d = variantOf cls := by
  rcases joined_before hx with stays | ⟨e, he, ⟨letters, hl, becomes⟩ | ⟨goes, -⟩⟩
  · rw [Option.some.inj (hd.symm.trans stays)]
  · rw [Option.some.inj (hd.symm.trans becomes)]
    exact variantOf_spelled he hl
  · exact nomatch hd.symm.trans goes

theorem keepsVariants_consolidate (classes : List String) :
    KeepsVariants classes (consolidate classes) := by
  have kept : KeepsVariants (classes.zipIdx.map Prod.fst)
      (classes.zipIdx.filterMap (joined (entries classes))) := by
    refine keepsVariants_filterMap fun x hx d hd => ?_
    obtain ⟨c, i⟩ := x
    exact variantOf_joined hx hd
  rwa [List.zipIdx_map_fst] at kept

theorem dropStretch_sublist (classes : List String) : (dropStretch classes).Sublist classes := by
  unfold dropStretch
  split
  · exact List.filter_sublist
  · exact List.Sublist.refl classes

/-- the alignment that is written out has no variant -/
theorem keepsVariants_normalizeFlex (classes : List String) : ∃ added,
    added.Sublist ["justify-start", "items-start"] ∧
      KeepsVariants (classes ++ added) (normalizeFlex classes) := by
  have kept : KeepsVariants classes (classes.filter fun c => !flexDefaults.contains c) :=
    .of_sublist List.filter_sublist
  have start (b : Bool) (cls : String) : (if b then [] else [cls]).Sublist [cls] := by
    cases b
    · exact List.Sublist.refl [cls]
    · exact List.nil_sublist [cls]
  rw [normalizeFlex_eq]
  dsimp only
  split
  · rw [List.append_assoc]
    exact ⟨_, (start _ "justify-start").append (start _ "items-start"),
      kept.append (.of_sublist (List.Sublist.refl _))⟩
  · refine ⟨[], List.nil_sublist _, ?_⟩
    rwa [List.append_nil]

theorem keepsVariants_finalize (tolerance : Float) (classes : List String) : ∃ added,
    added.Sublist ["justify-start", "items-start"] ∧
      KeepsVariants (classes ++ added) (finalize tolerance classes) := by
  have front : KeepsVariants classes
      (dropNegativeGaps (snap tolerance (dedupe (expandOverridden classes)))) :=
    (keepsVariants_expandOverridden classes).trans
      ((KeepsVariants.of_sublist (dedupeAfter_sublist _ [])).trans
        ((keepsVariants_snap tolerance _).trans (.of_sublist List.filter_sublist)))
  obtain ⟨added, few, flex⟩ := keepsVariants_normalizeFlex
    (dropNegativeGaps (snap tolerance (dedupe (expandOverridden classes))))
  refine ⟨added, few, ?_⟩
  exact (front.append (.of_sublist (List.Sublist.refl added))).trans
    (flex.trans ((keepsVariants_consolidate _).trans (.of_sublist (dropStretch_sublist _))))

/-! ## the newer spelling -/

/-- closing brackets never take the depth below zero -/
theorem depth_of_not_open {cs : List Char} (h : '[' ∉ cs) : cs.foldl depthAfter 0 = 0 := by
  induction cs with
  | nil => rfl
  | cons c cs ih =>
    obtain ⟨other, later⟩ := not_or.mp (List.mem_cons.not.mp h)
    have stays : depthAfter 0 c = 0 := by
      rw [depthAfter, if_neg (Ne.symm other)]
      exact ite_self 0
    rw [List.foldl_cons, stays, ih later]

theorem inert_of_alpha {letters : String} (h : Text.all Chars.isAsciiAlpha letters = true) :
    letters.toList.all inert = true := by
  refine List.all_eq_true.mpr fun c hc => ?_
  have letter : Chars.isAsciiAlnum c = true :=
    Chars.isAsciiAlnum_iff.mpr (.inl (List.all_eq_true.mp h c hc))
  rw [inert, Bool.and_eq_true, Bool.and_eq_true, bne_iff_ne, bne_iff_ne, bne_iff_ne]
  exact ⟨⟨Chars.ne_of_alnum letter (by decide), Chars.ne_of_alnum letter (by decide)⟩,
    Chars.ne_of_alnum letter (by decide)⟩

/-- out of its brackets a value is cut at its hint, or else at a colon in its name -/
theorem Reading.variantOf_short {r : Reading} (bare : Colonless 0 r.base.toList) :
    variantOf r.short = "" ↔ r.hint = "" ∧ Colonless 0 r.name.toList := by
  have utility : Colonless 0 r.utility.toList := by
    rw [Reading.base] at bare
    simp only [String.toList_append, List.append_assoc] at bare
    exact (colonless_append.mp bare).1
  have written : r.short.toList = r.utility.toList ++ (['('] ++ (r.hint.toList ++
      (r.name.toList ++ [')']))) := by
    simp [Reading.short]
  have name : Colonless 0 (r.name.toList ++ [')']) ↔ Colonless 0 r.name.toList := by
    rw [colonless_append]
    exact and_iff_left (colonless_of_not_mem (by decide) _)
  rw [variantOf_eq_empty_iff_colonless, written, colonless_append, and_iff_right utility,
    depth_of_not_open r.utility_open, colonless_inert (by decide)]
  rcases r.isHint with none | ⟨letters, alpha, hint⟩
  · rw [none, String.toList_empty, List.nil_append, name]
    exact (and_iff_right rfl).symm
  · refine iff_of_false (fun h => ?_) (fun h => ?_)
    · rw [hint, String.toList_append, List.append_assoc,
        colonless_inert (inert_of_alpha alpha)] at h
      exact h [] _ rfl rfl
    · rw [hint] at h
      exact absurd (String.append_eq_empty_iff.mp h.1).2 (by decide)

/-- only what is put in parentheses can be cut -/
theorem variantOf_modernizeBase? {base new : String} (bare : Colonless 0 base.toList)
    (h : modernizeBase? base = some new) : variantOf new = "" ↔
      ∀ r : Reading, r.base = base → r.hint = "" ∧ Colonless 0 r.name.toList := by
  by_cases read : ∃ r : Reading, r.base = base
  · obtain ⟨r, rfl⟩ := read
    obtain rfl := Option.some.inj ((modernizeBase?_base r).symm.trans h)
    rw [Reading.variantOf_short bare]
    exact ⟨fun own r' same => Reading.unique same ▸ own, fun all => all r rfl⟩
  · refine iff_of_true ?_ fun r same => absurd ⟨r, same⟩ read
    rw [variantOf_eq_empty_iff_colonless]
    cases rewriting_of_modernizeBase? h with
    | renamed found =>
      exact cutVariant?_eq_none_iff.mp (cutVariant?_of_inert (renames_plain _ found).1)
    | parenthesized found =>
      obtain ⟨r, same, -⟩ := variableShorthand?_eq_some_iff.mp found
      exact absurd ⟨r, same⟩ read
    | tracks =>
      exact cutVariant?_eq_none_iff.mp (cutVariant?_replaceComma (cutVariant?_eq_none_iff.mpr bare))
    | marked found =>
      obtain rfl := Text.dropPrefix?_eq_some_iff.mp (Option.filter_eq_some_iff.mp found).1
      rw [String.toList_append, colonless_inert (by decide)] at bare
      rw [String.toList_append, colonless_append]
      exact ⟨bare, colonless_of_not_mem (by decide) _⟩
    | same => exact bare

/-- the variant that is put back is read as it was, unless the new base is cut -/
theorem variantOf_modernize? {cls new : String} (h : modernize? cls = some new) :
    (∃ base, new = variantOf cls ++ base) ∧ (variantOf new = variantOf cls ↔
      ∀ r : Reading, r.base = baseOf cls → r.hint = "" ∧ Colonless 0 r.name.toList) := by
  obtain ⟨base, written, rfl⟩ := Option.map_eq_some_iff.mp h
  have parts : variantOf (variantOf cls ++ base) = variantOf cls ++ variantOf base :=
    congrArg Prod.fst (splitVariant_behind cls base)
  refine ⟨⟨base, rfl⟩, ?_⟩
  rw [← variantOf_modernizeBase? (colonless_baseOf cls) written, parts]
  exact String.append_eq_left_iff

/-- **Variant and base.**  Behind each other they are the class.  The variant is empty or ends with a
colon at depth zero; the base has no variant, and in its place any other text without one can stand.
So what the clean-up rewrites keeps its variant: a shorthand of which other sides are left, pixels
that move to the scale, and sides that are joined.  Its other passes drop classes, or add some
without a variant, so that through all of it each class stands in the place of one with its variant.
The newer spelling puts the variant back as well, and it is read again unless a hint, or a colon of
the name, comes to stand outside of square brackets. -/
theorem variants_reattached (cls : String) :
    (variantOf cls ++ baseOf cls = cls ∧ IsVariant (variantOf cls) ∧
      splitVariant (baseOf cls) = ("", baseOf cls) ∧
      ∀ base, splitVariant base = ("", base) →
        splitVariant (variantOf cls ++ base) = (variantOf cls, base)) ∧
    ((∀ own, ∀ d ∈ expandOne own cls, variantOf d = variantOf cls) ∧
      (∀ tolerance, variantOf (snapOne tolerance cls) = variantOf cls) ∧
      ∀ classes i, (cls, i) ∈ classes.zipIdx → ∀ d, joined (entries classes) (cls, i) = some d →
        variantOf d = variantOf cls) ∧
    (∀ classes, ∀ pass ∈ [dedupe, dropNegativeGaps, dropStretch],
      (pass classes).Sublist classes) ∧
    (∀ tolerance classes, ∃ added : List String,
      (∀ c ∈ added, c ∈ ["justify-start", "items-start"] ∧ variantOf c = "") ∧
        KeepsVariants (classes ++ added) (finalize tolerance classes)) ∧
    ∀ new, modernize? cls = some new → (∃ base, new = variantOf cls ++ base) ∧
      (variantOf new = variantOf cls ↔
        ∀ r : Reading, r.base = baseOf cls → r.hint = "" ∧ Colonless 0 r.name.toList) := by
  refine ⟨⟨variantOf_append_baseOf cls, isVariant_variantOf cls, ?_, fun base bare => ?_⟩,
    ⟨fun own d => variantOf_expandOne, fun tolerance => variantOf_snapOne tolerance cls,
      fun classes i hx d => variantOf_joined hx⟩, fun classes pass hp => ?_,
    fun tolerance classes => ?_, fun new => variantOf_modernize?⟩
  · exact splitVariant_eq_iff.mpr ⟨String.empty_append, isVariant_empty, colonless_baseOf cls⟩
  · have whole : cutVariant? 0 base.toList = none :=
      cutVariant?_eq_none_iff.mpr (splitVariant_eq_iff.mp bare).2.2
    exact splitVariant_replaced cls whole
  · simp only [List.mem_cons, List.not_mem_nil, or_false] at hp
    rcases hp with rfl | rfl | rfl
    · exact dedupeAfter_sublist classes []
    · exact List.filter_sublist
    · exact dropStretch_sublist classes
  · obtain ⟨added, few, kept⟩ := keepsVariants_finalize tolerance classes
    have plain : ∀ c ∈ ["justify-start", "items-start"], variantOf c = "" := by decide
    exact ⟨added, fun c hc => ⟨few.subset hc, plain c (few.subset hc)⟩, kept⟩

/-- a custom property with a hint: the variant is put back, and more than it is read -/
theorem variant_of_parenthesized_hint :
    splitVariant "md:text-[color:var(--ink)]" = ("md:", "text-[color:var(--ink)]") ∧
    modernize? "md:text-[color:var(--ink)]" = some "md:text-(color:--ink)" ∧
    splitVariant "md:text-(color:--ink)" = ("md:text-(color:", "--ink)") ∧
    ¬ ∀ cls new, modernize? cls = some new → variantOf new = variantOf cls := by
  have written : modernize? "md:text-[color:var(--ink)]" = some "md:text-(color:--ink)" := by
    decide
  refine ⟨by decide, written, by decide, fun kept => ?_⟩
  exact absurd (kept _ _ written) (by decide)

end Handoff.ClassList
