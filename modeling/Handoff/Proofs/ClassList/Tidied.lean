import Handoff.Proofs.ClassList.Passes

/-!
# What the clean-up does to classes that are not for spacing

Seven passes make up the clean-up, and all of them see the whole list.  What they do together to the
classes that are not for spacing can be said of these classes alone, but for how spacing classes
begin, and that is read off the result.

* `counting`          the last class of each variant and group, and the first of equal classes
                      without a group;
* `dedupe_eq_counting`   `dedupe` keeps these;
* `tidied`            defaults dropped, alignment written out, and no stretching beside a maximal
                      width;
* `others_finalize`   the clean-up is this on the classes that are not for spacing.
-/

namespace Handoff.ClassList

/-! ## classes that count -/

/-- no later class has the variant and group of the one at this place, or, if it has no group, no
earlier one is equal to it -/
def counts (classes : List String) (c : String) (place : Nat) : Bool :=
  match groupKey? c with
  | some key => (classes.drop (place + 1)).all fun d => groupKey? d != some key
  | none => !(classes.take place).contains c

def counting (classes : List String) : List String :=
  (classes.zipIdx.filter fun x => counts classes x.1 x.2).map Prod.fst

theorem counts_after (before : List String) (c : String) (cs : List String) :
    counts (before ++ c :: cs) c before.length =
      match groupKey? c with
      | some key => cs.all fun d => groupKey? d != some key
      | none => !before.contains c := by
  unfold counts
  rw [List.take_left, ← List.drop_drop, List.drop_left]
  rfl

/-- what was kept of the classes before tells what all of them tell: a class without a group is among
both, and one with a group comes again only if it was not kept -/
structure Sees (before seen cs : List String) : Prop where
  same : ∀ c, groupKey? c = none → (c ∈ seen ↔ c ∈ before)
  last : ∀ c ∈ seen, (groupKey? c).isSome = true → ∀ d ∈ cs, groupKey? d ≠ groupKey? c

theorem dedupeAfter_cons {before seen cs : List String} {c : String}
    (h : Sees before seen (c :: cs)) :
    dedupeAfter seen (c :: cs) =
      if counts (before ++ c :: cs) c before.length then c :: dedupeAfter (c :: seen) cs
      else dedupeAfter seen cs := by
  rw [counts_after, dedupeAfter]
  cases key : groupKey? c with
  | some k =>
    have unseen : seen.contains c = false := by
      rw [← Bool.not_eq_true, List.contains_iff_mem]
      exact fun again => h.last c again (by rw [key]; rfl) c List.mem_cons_self rfl
    have negated : (cs.all fun d => groupKey? d != some k)
        = !cs.any fun d => groupKey? d == some k := List.not_any_eq_all_not.symm
    simp only [negated, unseen]
    cases cs.any fun d => groupKey? d == some k <;> rfl
  | none =>
    have seen_eq : seen.contains c = before.contains c := by
      rw [Bool.eq_iff_iff, List.contains_iff_mem, List.contains_iff_mem, h.same c key]
    simp only [seen_eq]
    cases before.contains c <;> rfl

theorem Sees.skip {before seen cs : List String} {c : String} (h : Sees before seen (c :: cs))
    (dropped : ¬ counts (before ++ c :: cs) c before.length = true) :
    Sees (before ++ [c]) seen cs where
  same d hd := by
    rw [h.same d hd, List.mem_append, List.mem_singleton]
    refine ⟨.inl, fun e => e.elim id ?_⟩
    rintro rfl
    rw [counts_after, hd] at dropped
    simpa using dropped
  last e he given d hd := h.last e he given d (List.mem_cons_of_mem _ hd)

theorem Sees.keep {before seen cs : List String} {c : String} (h : Sees before seen (c :: cs))
    (kept : counts (before ++ c :: cs) c before.length = true) :
    Sees (before ++ [c]) (c :: seen) cs where
  same d hd := by
    rw [List.mem_cons, h.same d hd, List.mem_append, List.mem_singleton]
    exact or_comm
  last e he given d hd := by
    rcases List.mem_cons.mp he with rfl | he
    · obtain ⟨key, hk⟩ := Option.isSome_iff_exists.mp given
      rw [counts_after, hk] at kept
      rw [hk]
      exact bne_iff_ne.mp (List.all_eq_true.mp kept d hd)
    · exact h.last e he given d (List.mem_cons_of_mem _ hd)

theorem dedupeAfter_eq {before seen cs : List String} (h : Sees before seen cs) :
    dedupeAfter seen cs =
      ((cs.zipIdx before.length).filter fun x => counts (before ++ cs) x.1 x.2).map Prod.fst := by
  induction cs generalizing before seen with
  | nil => rfl
  | cons c cs ih =>
    have step {seen' : List String} (h' : Sees (before ++ [c]) seen' cs) :
        dedupeAfter seen' cs = ((cs.zipIdx (before.length + 1)).filter fun x =>
          counts (before ++ c :: cs) x.1 x.2).map Prod.fst := by
      have e := ih h'
      rw [List.append_assoc, List.length_append] at e
      exact e
    rw [dedupeAfter_cons h, List.zipIdx_cons, List.filter_cons]
    dsimp only
    split
    · next kept => rw [step (h.keep kept), List.map_cons]
    · next dropped => exact step (h.skip dropped)

theorem dedupe_eq_counting (classes : List String) : dedupe classes = counting classes := by
  have start : Sees [] [] classes := ⟨fun _ _ => Iff.rfl, fun _ h => nomatch h⟩
  rw [dedupe, dedupeAfter_eq start]
  rfl

/-! ## alignment and stretching -/

/-- whether there is a class that begins like this -/
def led (lead : String) (classes : List String) : Bool := classes.any (Text.startsWith lead)

/-- without defaults, and with the alignment of flex containers that no class says, where the
classes in `beside` are there as well -/
def aligned (beside classes : List String) : List String :=
  let kept := classes.filter fun c => !flexDefaults.contains c
  let start := fun lead cls => if led lead kept || led lead beside then [] else [cls]
  if kept.contains "flex" || kept.contains "inline-flex" then
    kept ++ start "justify-" "justify-start" ++ start "items-" "items-start"
  else kept

/-- without stretching beside a class whose name begins like a maximal width -/
def unstretched (beside classes : List String) : List String :=
  if led "max-w-" classes || led "max-w-" beside then classes.filter (· ≠ "self-stretch")
  else classes

/-- what the clean-up makes of classes that are not for spacing, beside those that are -/
def tidied (beside classes : List String) : List String :=
  unstretched beside (aligned beside (counting classes))

theorem led_eq (lead : String) (classes : List String) :
    led lead classes = (led lead (others classes) || led lead (spacings classes)) := by
  rw [led, led, led, others, spacings, List.any_filter, List.any_filter, Bool.eq_iff_iff,
    Bool.or_eq_true, List.any_eq_true, List.any_eq_true, List.any_eq_true, ← exists_or]
  refine exists_congr fun c => ?_
  cases isSpacing c <;> simp

theorem led_append (lead : String) (a b : List String) :
    led lead (a ++ b) = (led lead a || led lead b) :=
  List.any_append

/-- dropping classes that are not for spacing -/
theorem others_filter (p : String → Bool) (classes : List String) :
    others (classes.filter p) = (others classes).filter p := by
  rw [others, others, List.filter_filter, List.filter_filter]
  exact List.filter_congr fun c _ => Bool.and_comm ..

theorem spacings_filter {p : String → Bool} (h : ∀ c, isSpacing c = true → p c = true)
    (classes : List String) : spacings (classes.filter p) = spacings classes := by
  rw [spacings, spacings, List.filter_filter]
  refine List.filter_congr fun c _ => ?_
  cases hs : isSpacing c with
  | true => rw [h c hs]; rfl
  | false => rfl

/-- the classes that the clean-up drops or adds on its own -/
theorem handled_plain : ∀ c ∈ flexDefaults ++ ["self-stretch", "justify-start", "items-start",
    "flex", "inline-flex"], isSpacing c = false := by decide

theorem spacings_not_default (classes : List String) :
    spacings (classes.filter fun c => !flexDefaults.contains c) = spacings classes := by
  refine spacings_filter (fun c hs => ?_) classes
  rw [Bool.not_eq_true', ← Bool.not_eq_true, List.contains_iff_mem]
  intro default
  rw [handled_plain c (List.mem_append_left _ default)] at hs
  cases hs

theorem addUnless_eq (lead cls : String) (classes : List String) :
    addUnless lead cls classes = classes ++ if led lead classes then [] else [cls] := by
  unfold addUnless led
  split
  · rw [List.append_nil]
  · rfl

theorem others_of_plain {cls : String} (h : isSpacing cls = false) (b : Bool) :
    others (if b then [] else [cls]) = if b then [] else [cls] := by
  cases b with
  | true => rfl
  | false => exact (others_cons cls []).trans (if_neg (by rw [h]; decide))

theorem spacings_of_plain {cls : String} (h : isSpacing cls = false) (b : Bool) :
    spacings (if b then [] else [cls]) = [] := by
  cases b with
  | true => rfl
  | false => exact List.filter_eq_nil_iff.mpr fun c hc => by simp [List.mem_singleton.mp hc, h]

theorem normalizeFlex_eq (classes : List String) :
    normalizeFlex classes =
      let kept := classes.filter fun c => !flexDefaults.contains c
      let start := fun lead cls => if led lead kept then [] else [cls]
      if kept.contains "flex" || kept.contains "inline-flex" then
        kept ++ start "justify-" "justify-start" ++ start "items-" "items-start"
      else kept := by
  unfold normalizeFlex
  dsimp only
  split
  · have other : led "items-" (if led "justify-" (classes.filter fun c => !flexDefaults.contains c)
        then [] else ["justify-start"]) = false := by
      split
      · rfl
      · decide
    rw [addUnless_eq, addUnless_eq, led_append, other, Bool.or_false]
  · rfl

theorem others_normalizeFlex (classes : List String) :
    others (normalizeFlex classes) = aligned (spacings classes) (others classes) := by
  have plain (c : String) (hc : c ∈ ["justify-start", "items-start", "flex", "inline-flex"]) :
      isSpacing c = false := handled_plain c (by simp at hc ⊢; tauto)
  rw [normalizeFlex_eq, aligned]
  dsimp only
  rw [← others_filter, ← spacings_not_default classes]
  generalize classes.filter (fun c => !flexDefaults.contains c) = kept
  rw [contains_others (plain "flex" (by decide)), contains_others (plain "inline-flex" (by decide)),
    ← led_eq, ← led_eq]
  split
  · rw [others_append, others_append, others_of_plain (plain "justify-start" (by decide)),
      others_of_plain (plain "items-start" (by decide))]
  · rfl

theorem spacings_normalizeFlex (classes : List String) :
    spacings (normalizeFlex classes) = spacings classes := by
  rw [normalizeFlex_eq, ← spacings_not_default classes]
  dsimp only
  split
  · rw [spacings_append, spacings_append,
      spacings_of_plain (handled_plain "justify-start" (by decide)),
      spacings_of_plain (handled_plain "items-start" (by decide)), List.append_nil, List.append_nil]
  · rfl

theorem others_dropStretch (classes : List String) :
    others (dropStretch classes) = unstretched (spacings classes) (others classes) := by
  rw [unstretched, ← led_eq, dropStretch]
  unfold led
  split
  · exact others_filter ..
  · rfl

theorem spacings_dropStretch (classes : List String) :
    spacings (dropStretch classes) = spacings classes := by
  unfold dropStretch
  split
  · refine spacings_filter (fun c hs => decide_eq_true ?_) classes
    rintro rfl
    rw [handled_plain "self-stretch" (by decide)] at hs
    cases hs
  · rfl

theorem aligned_congr {beside beside' : List String}
    (h : ∀ lead ∈ alignmentLeads, led lead beside = led lead beside') (classes : List String) :
    aligned beside classes = aligned beside' classes := by
  unfold aligned
  dsimp only
  rw [h "justify-" (by decide), h "items-" (by decide)]

/-! ## the whole clean-up -/

/-- the classes that are not for spacing come out of the clean-up tidied, in their order: no pass
over spacing touches them, and of the spacing only how the names of its classes begin matters -/
theorem others_finalize (tolerance : Float) (classes : List String) :
    others (finalize tolerance classes)
      = tidied (spacings (finalize tolerance classes)) (others classes) := by
  unfold finalize
  generalize hsettled : dropNegativeGaps (snap tolerance (dedupe (expandOverridden classes)))
    = settled
  have counted : others settled = counting (others classes) := by
    rw [← hsettled, others_dropNegativeGaps, others_snap, others_dedupe, others_expandOverridden,
      dedupe_eq_counting]
  have sameLeads : ∀ lead ∈ alignmentLeads, led lead (spacings settled)
      = led lead (spacings (consolidate (normalizeFlex settled))) := by
    intro lead hlead
    rw [led, led, any_spacing_consolidate hlead, spacings_normalizeFlex]
  rw [others_dropStretch, spacings_dropStretch, others_consolidate, others_normalizeFlex, counted,
    aligned_congr sameLeads, tidied]

/-- a variant that begins like a maximal width counts as one -/
theorem unstretched_for_variant :
    let classes := ["self-stretch", "max-w-md:flex"]
    counting (others classes) = classes ∧
      (∀ c ∈ classes, ¬ (variantOf c = "" ∧ Text.startsWith "max-w-" (baseOf c) = true)) ∧
      others (finalize Utility.defaultTolerance classes) = ["max-w-md:flex"] := by
  decide

end Handoff.ClassList
