import Handoff.Proofs.ClassList.Joined

/-!
# What the passes over spacing leave alone

Four passes of the clean-up rewrite, join or drop classes, but only those for paddings, margins and
gaps.  Such a class is known by how its base begins, and each of the passes turns it into others of
this kind.

* `isSpacing_iff`          how the bases of spacing classes begin;
* `others`                 the classes that are not for spacing;
* `others_expandOverridden`, `others_snap`, `others_dropNegativeGaps`, `others_consolidate`
                           these passes keep them as they are;
* `others_dedupe`          and whether later classes replace them does not depend on spacing;
* `any_spacing_consolidate`   joining sides loses no variant.
-/

namespace Handoff.ClassList

/-- the groups of paddings, margins and gaps -/
def spacingGroups : List String := [
  "p", "px", "py", "pt", "pr", "pb", "pl", "m", "mx", "my", "mt", "mr", "mb", "ml", "gap", "gap-x",
  "gap-y"]

def isSpacing (cls : String) : Bool := (group? (baseOf cls)).any spacingGroups.contains

/-- the classes that are not for spacing -/
def others (classes : List String) : List String := classes.filter fun c => !isSpacing c

/-- the classes for spacing -/
def spacings (classes : List String) : List String := classes.filter isSpacing

theorem others_append (a b : List String) : others (a ++ b) = others a ++ others b :=
  List.filter_append ..

theorem spacings_append (a b : List String) : spacings (a ++ b) = spacings a ++ spacings b :=
  List.filter_append ..

theorem mem_others {c : String} {classes : List String} :
    c ∈ others classes ↔ c ∈ classes ∧ isSpacing c = false := by
  rw [others, List.mem_filter, Bool.not_eq_true']

theorem others_eq_nil {classes : List String} (h : ∀ c ∈ classes, isSpacing c = true) :
    others classes = [] :=
  List.filter_eq_nil_iff.mpr fun c hc => by rw [h c hc]; decide

/-! ## how bases begin -/

/-- how the bases of spacing classes begin, behind a sign -/
def spacingLeads : List (List Char) := spacingGroups.map fun g => g.toList ++ ['-']

theorem exactGroups_plain : ∀ e ∈ exactGroups, e.2 ∉ spacingGroups ∧
    ∀ lead ∈ spacingLeads, ¬ lead <+: e.1.toList := by decide

theorem leadGroups_spacing : ∀ e ∈ leadGroups, e.2 ∈ spacingGroups →
    e.1.toList ∈ spacingLeads := by decide

theorem exists_spacingLead : ∀ lead ∈ spacingLeads, ∃ e ∈ leadGroups, e.1.toList = lead := by
  decide

/-- what begins like a spacing class has no other beginning that tells its group -/
theorem leadGroups_begin : ∀ e ∈ leadGroups, ∀ lead ∈ spacingLeads,
    e.1.toList <+: lead ∨ lead <+: e.1.toList → e.2 ∈ spacingGroups := by decide

theorem otherGroups_plain : ∀ g ∈ otherGroups, g ∉ spacingGroups := by decide

theorem group?_spacing_iff {base : String} :
    (group? base).any spacingGroups.contains = true ↔
      ∃ lead ∈ spacingLeads, lead <+: (signed base).2.toList := by
  rw [Option.any_eq_true]
  constructor
  · rintro ⟨g, h, spacing⟩
    rw [List.contains_iff_mem] at spacing
    rcases group?_cases h with exact | ⟨e, he, rfl, begins⟩ | other
    · exact absurd spacing (exactGroups_plain _ exact).1
    · exact ⟨_, leadGroups_spacing e he spacing, begins⟩
    · exact absurd spacing (otherGroups_plain g other)
  · rintro ⟨lead, hlead, h⟩
    obtain ⟨e, he, found, nested⟩ := group?_of_lead
      (fun e he => (exactGroups_plain e he).2 lead hlead) (exists_spacingLead lead hlead) h
    exact ⟨_, found, List.contains_iff_mem.mpr (leadGroups_begin e he lead hlead nested)⟩

theorem isSpacing_iff {cls : String} :
    isSpacing cls = true ↔ ∃ lead ∈ spacingLeads, lead <+: (signed (baseOf cls)).2.toList :=
  group?_spacing_iff

/-- no lead begins with a sign -/
theorem spacingLeads_unsigned : ∀ lead ∈ spacingLeads, ∃ c cs, lead = c :: cs ∧ c ≠ '-' := by
  have table : ∀ lead ∈ spacingLeads, lead ≠ [] ∧ lead.head? ≠ some '-' := by decide
  intro lead hlead
  obtain ⟨ne, unsigned⟩ := table lead hlead
  obtain ⟨c, cs, rfl⟩ := List.exists_cons_of_ne_nil ne
  exact ⟨c, cs, rfl, fun e => unsigned (congrArg some e)⟩

theorem isSpacing_of_lead {cls : String} {lead : List Char} (hlead : lead ∈ spacingLeads)
    (h : lead <+: (baseOf cls).toList) : isSpacing cls = true := by
  obtain ⟨rest, e⟩ := h
  obtain ⟨c, cs, rfl, unsigned⟩ := spacingLeads_unsigned lead hlead
  refine isSpacing_iff.mpr ⟨_, hlead, ?_⟩
  rw [signed_eq unsigned e.symm (.inl rfl) rfl, ← e]
  exact List.prefix_append _ _

theorem lead_mem_spacingLeads {letters : List Char} (hl : letters ∈ spellings) (box : Box) :
    lead box letters ∈ spacingLeads := by
  cases box <;> revert letters <;> decide

theorem isSpacing_of_setting {cls : String} {st : Setting} (h : setting? cls = some st)
    (hl : st.letters ∈ spellings) : isSpacing cls = true := by
  refine isSpacing_iff.mpr ⟨lead st.box st.letters, lead_mem_spacingLeads hl _, ?_⟩
  rw [signed_baseOf h, String.toList_ofList]
  exact ⟨st.value.toList, by simp [lead]⟩

/-! ## each pass keeps the others -/

section
variable {α : Type} {l : List α} {g : α → String}

/-- what becomes of a class when only spacing is rewritten -/
def Rewritten (c : String) (cs : List String) : Prop :=
  cs = [c] ∨ isSpacing c = true ∧ ∀ d ∈ cs, isSpacing d = true

theorem others_flatMap {f : α → List String} (h : ∀ a ∈ l, Rewritten (g a) (f a)) :
    others (l.flatMap f) = others (l.map g) := by
  induction l with
  | nil => rfl
  | cons a l ih =>
    obtain ⟨ha, hl⟩ := List.forall_mem_cons.mp h
    rw [List.flatMap_cons, List.map_cons, others_append, ih hl, ← List.singleton_append,
      others_append]
    rcases ha with e | ⟨spacing, all⟩
    · rw [e]
    · rw [others_eq_nil all, others_eq_nil fun c hc => List.mem_singleton.mp hc ▸ spacing]

theorem others_map {f : α → String} (h : ∀ a ∈ l, Rewritten (g a) [f a]) :
    others (l.map f) = others (l.map g) := by
  rw [List.map_eq_flatMap]
  exact others_flatMap h

theorem others_filterMap {f : α → Option String} (h : ∀ a ∈ l, Rewritten (g a) (f a).toList) :
    others (l.filterMap f) = others (l.map g) := by
  rw [List.filterMap_eq_flatMap_toList]
  exact others_flatMap h

end

theorem rewritten_expandOne (own : List (String × Box × Side)) (cls : String) :
    Rewritten cls (expandOne own cls) := by
  rcases expandOne_cases own cls with stays | ⟨st, sides, hst, hl, made⟩
  · exact .inl stays
  · refine .inr ⟨isSpacing_of_setting hst (mem_spellings_of_sides hl), fun d hd => ?_⟩
    obtain ⟨s, rfl⟩ := made d hd
    have side := mem_spellings_of_side s
    exact isSpacing_of_setting (setting?_toClass hst (mem_spellings_of_sides hl) side) side

theorem others_expandOverridden (classes : List String) :
    others (expandOverridden classes) = others classes := by
  rw [expandOverridden, others_flatMap fun c _ => rewritten_expandOne _ c, List.map_id']

/-! ### snapping -/

theorem mem_scale_of_nearestToken? {px tolerance : Float} {token : String}
    (h : Utility.nearestToken? px tolerance = some token) :
    token ∈ Utility.spacingScale.map Prod.snd := by
  have near (es : List (Nat × String)) (e : Nat × String)
      (h : ∀ x ∈ e :: es, x ∈ Utility.spacingScale) :
      es.foldl (Utility.nearer px) e ∈ Utility.spacingScale := by
    induction es generalizing e with
    | nil => exact h e List.mem_cons_self
    | cons f es ih =>
      refine ih _ fun x hx => ?_
      rcases List.mem_cons.mp hx with rfl | hx
      · unfold Utility.nearer
        split
        · exact h f (by simp)
        · exact h e (by simp)
      · exact h x (by simp [hx])
  unfold Utility.nearestToken? at h
  split at h
  · obtain ⟨e, he, rfl⟩ := Option.map_eq_some_iff.mp h
    exact List.mem_map_of_mem (List.mem_of_find?_eq_some he)
  · split at h
    · cases h
    · next e es within =>
      obtain rfl := Option.some.inj h
      refine List.mem_map_of_mem (near es e fun x hx => ?_)
      exact List.mem_of_mem_filter (within ▸ hx)

theorem tokens_inert : ∀ token ∈ Utility.spacingScale.map Prod.snd,
    token.toList.all inert = true := by decide

theorem snappedUtilities_spacing : ∀ u ∈ snappedUtilities,
    u.toList ++ ['-'] ∈ spacingLeads ∧ (u.toList ++ ['-']).all inert = true := by decide

/-- a class stays, or its pixels become a token of the scale -/
theorem snapOne_cases (tolerance : Float) (cls : String) : snapOne tolerance cls = cls ∨
    ∃ u ∈ snappedUtilities, ∃ token ∈ Utility.spacingScale.map Prod.snd,
      u.toList ++ ['-'] <+: (baseOf cls).toList ∧
        splitVariant (snapOne tolerance cls) = (variantOf cls, u ++ "-" ++ token) := by
  unfold snapOne
  dsimp only
  cases h : snappedUtilities.findSome? _ with
  | none => exact .inl rfl
  | some snapped =>
    obtain ⟨u, hu, hs⟩ := List.exists_of_findSome?_eq_some h
    obtain ⟨px, hpx, hs⟩ := Option.bind_eq_some_iff.mp hs
    obtain ⟨token, ht, rfl⟩ := Option.map_eq_some_iff.mp hs
    have ht := mem_scale_of_nearestToken? ht
    have bracketed : u.toList ++ ['-'] <+: (baseOf cls).toList := by
      simp only [Utility.arbitraryPx?, Option.bind_eq_bind, Option.bind_eq_some_iff] at hpx
      obtain ⟨rest, hrest, inner, hinner, -⟩ := hpx
      obtain ⟨cs, hcs, rfl⟩ := Option.map_eq_some_iff.mp hrest
      obtain ⟨ds, hds, -⟩ := Option.map_eq_some_iff.mp hinner
      rw [String.toList_ofList (l := cs)] at hds
      rw [Chars.dropPrefix?_eq_some.mp hcs, Chars.dropPrefix?_eq_some.mp hds]
      exact ⟨'[' :: ds, by simp⟩
    have plain : cutVariant? 0 (u ++ "-" ++ token).toList = none := by
      have letters : (u ++ "-" ++ token).toList = (u.toList ++ ['-']) ++ token.toList := by simp
      rw [letters, cutVariant?_inert (snappedUtilities_spacing u hu).2,
        cutVariant?_of_inert (tokens_inert token ht)]
    refine .inr ⟨u, hu, token, ht, bracketed, ?_⟩
    rw [Option.getD_some, ← splitVariant_replaced cls plain]
    simp only [String.append_assoc]

theorem rewritten_snapOne (tolerance : Float) (cls : String) :
    Rewritten cls [snapOne tolerance cls] := by
  rcases snapOne_cases tolerance cls with stays | ⟨u, hu, token, -, bracketed, snapped⟩
  · exact .inl (by rw [stays])
  · have leads := (snappedUtilities_spacing u hu).1
    refine .inr ⟨isSpacing_of_lead leads bracketed, List.forall_mem_singleton.mpr ?_⟩
    refine isSpacing_of_lead leads ⟨token.toList, ?_⟩
    rw [show baseOf (snapOne tolerance cls) = _ from congrArg Prod.snd snapped]
    simp

theorem others_snap (tolerance : Float) (classes : List String) :
    others (snap tolerance classes) = others classes := by
  rw [snap, others_map fun c _ => rewritten_snapOne tolerance c, List.map_id']

theorem negativeGapLeads_spacing : ∀ piece ∈ negativeGapLeads,
    ∃ lead ∈ spacingLeads, lead <+: piece.toList := by decide

theorem others_dropNegativeGaps (classes : List String) :
    others (dropNegativeGaps classes) = others classes := by
  rw [others, dropNegativeGaps, List.filter_filter]
  refine List.filter_congr fun c _ => ?_
  cases hs : isSpacing c with
  | true => rfl
  | false =>
    have stays : negativeGapLeads.any (fun lead => Text.startsWith lead (baseOf c)) = false := by
      rw [← Bool.not_eq_true, List.any_eq_true]
      rintro ⟨piece, hpiece, starts⟩
      obtain ⟨lead, hlead, begins⟩ := negativeGapLeads_spacing piece hpiece
      rw [isSpacing_of_lead hlead (begins.trans (startsWith_iff.mp starts))] at hs
      cases hs
    rw [stays]
    rfl

/-! ### joining sides -/

theorem mem_of_lastOn? {es : List ScaleSide} {variant : String} {box : Box} {s : Side}
    {o : ScaleSide} (h : lastOn? es variant box s = some o) :
    o ∈ es ∧ o.variant = variant ∧ o.box = box ∧ o.side = s := by
  simpa [and_assoc] using List.mem_of_getLast? h

/-- a class stays, or one for a side becomes a shorthand, or it goes into a class before it -/
theorem joined_before {classes : List String} {c : String} {i : Nat}
    (hx : (c, i) ∈ classes.zipIdx) :
    joined (entries classes) (c, i) = some c ∨
      ∃ e, scaleSide? (c, i) = some e ∧
        ((∃ letters ∈ spellings,
            joined (entries classes) (c, i) = some (e.spelled letters).toClass) ∨
          joined (entries classes) (c, i) = none ∧
            ∃ o ∈ entries classes, o.variant = e.variant ∧ o.index < i) := by
  cases he : scaleSide? (c, i) with
  | none => exact .inl (by rw [joined, he])
  | some e =>
    have own := mem_entries_of_scaleSide? hx he
    obtain rfl := (scaleSide?_eq_some_iff.mp he).1
    unfold joined
    rw [he]
    dsimp only
    split
    · exact .inl rfl
    split
    · refine .inr ⟨e, rfl, ?_⟩
      split
      · exact .inl ⟨[], by decide, congrArg some (e.toClass_spelled _).symm⟩
      · next notFirst =>
        rw [List.all_eq_true, not_forall] at notFirst
        obtain ⟨o, notFirst⟩ := notFirst
        rw [Classical.not_imp, decide_eq_true_eq, Nat.not_le] at notFirst
        obtain ⟨s, -, hs⟩ := List.mem_filterMap.mp notFirst.1
        obtain ⟨mem, same, -, -⟩ := mem_of_lastOn? (Option.filter_eq_some_iff.mp hs).1
        exact .inr ⟨rfl, o, mem, same, notFirst.2⟩
    · split
      · next o ho =>
        obtain ⟨mem, same, hb, hs⟩ := mem_of_lastOn? (Option.filter_eq_some_iff.mp ho).1
        refine .inr ⟨e, rfl, ?_⟩
        split
        · exact .inl ⟨_, mem_spellings_of_axis e.side, congrArg some (e.toClass_spelled _).symm⟩
        · next notFirst =>
          refine .inr ⟨rfl, o, mem, same, Nat.lt_of_le_of_ne (Nat.not_lt.mp notFirst) fun ne => ?_⟩
          obtain ⟨j, _, _, _, u⟩ := o
          obtain rfl : _ = e.variant := same
          obtain rfl : _ = e.box := hb
          obtain rfl : _ = e.side.opposite := hs
          exact index_ne own mem ne.symm
      · exact .inl rfl

theorem rewritten_joined {classes : List String} {x : String × Nat} (hx : x ∈ classes.zipIdx) :
    Rewritten x.1 (joined (entries classes) x).toList := by
  rcases joined_before hx with stays | ⟨e, he, becomes⟩
  · exact .inl (by rw [stays]; rfl)
  have setting := (scaleSide?_eq_some_iff.mp he).2.1
  refine .inr ⟨isSpacing_of_setting setting (mem_spellings_of_side e.side), fun d hd => ?_⟩
  rcases becomes with ⟨letters, spelled, h⟩ | ⟨h, -⟩
  · rw [h, Option.toList_some, List.mem_singleton] at hd
    exact hd ▸ isSpacing_of_setting (setting?_spelled he spelled) spelled
  · rw [h] at hd
    cases hd

theorem others_consolidate (classes : List String) :
    others (consolidate classes) = others classes := by
  refine (others_filterMap fun x hx => rewritten_joined hx).trans ?_
  rw [List.zipIdx_map_fst]

/-! ## variants -/

theorem mem_spacings {c : String} {classes : List String} :
    c ∈ spacings classes ↔ c ∈ classes ∧ isSpacing c = true :=
  List.mem_filter

theorem variantOf_spelled {c : String} {i : Nat} {e : ScaleSide} (he : scaleSide? (c, i) = some e)
    {letters : List Char} (hl : letters ∈ spellings) :
    variantOf (e.spelled letters).toClass = variantOf c :=
  (setting?_eq_some_iff.mp (setting?_spelled he hl)).1.trans
    (setting?_eq_some_iff.mp (scaleSide?_eq_some_iff.mp he).2.1).1.symm

/-- a class that goes leads to one before it, so the induction is on the place -/
theorem exists_of_spacing {classes : List String} {c : String} {i : Nat}
    (hi : classes[i]? = some c) (spacing : isSpacing c = true) :
    ∃ d ∈ spacings (consolidate classes), variantOf d = variantOf c := by
  induction i using Nat.strongRecOn generalizing c with
  | ind i ih =>
    have hx : (c, i) ∈ classes.zipIdx := List.mk_mem_zipIdx_iff_getElem?.mpr hi
    rcases joined_before hx with stays | ⟨e, he, ⟨letters, hl, becomes⟩ | ⟨-, o, ho, same, lt⟩⟩
    · exact ⟨c, mem_spacings.mpr ⟨List.mem_filterMap.mpr ⟨_, hx, stays⟩, spacing⟩, rfl⟩
    · exact ⟨_, mem_spacings.mpr ⟨List.mem_filterMap.mpr ⟨_, hx, becomes⟩,
        isSpacing_of_setting (setting?_spelled he hl) hl⟩, variantOf_spelled he hl⟩
    · obtain ⟨d, hd, hs, -⟩ := mem_entries_iff.mp ho
      have variant : variantOf d = variantOf c := by
        rw [(setting?_eq_some_iff.mp hs).1,
          (setting?_eq_some_iff.mp (scaleSide?_eq_some_iff.mp he).2.1).1]
        exact same
      rw [← variant]
      exact ih o.index lt (List.mk_mem_zipIdx_iff_getElem?.mp hd)
        (isSpacing_of_setting hs (mem_spellings_of_side o.side))

/-- the variants under which there is spacing are the same when sides are joined -/
theorem exists_variant_consolidate {classes : List String} {variant : String} :
    (∃ c ∈ spacings (consolidate classes), variantOf c = variant) ↔
      ∃ c ∈ spacings classes, variantOf c = variant := by
  constructor
  · rintro ⟨c, hc, rfl⟩
    obtain ⟨hc, spacing⟩ := mem_spacings.mp hc
    obtain ⟨⟨d, i⟩, hx, hj⟩ := List.mem_filterMap.mp hc
    have before := List.fst_mem_of_mem_zipIdx hx
    change joined (entries classes) (d, i) = some c at hj
    rcases joined_before hx with stays | ⟨e, he, ⟨letters, hl, becomes⟩ | ⟨goes, -⟩⟩
    · obtain rfl := Option.some.inj (stays.symm.trans hj)
      exact ⟨d, mem_spacings.mpr ⟨before, spacing⟩, rfl⟩
    · obtain rfl := Option.some.inj (becomes.symm.trans hj)
      have setting := (scaleSide?_eq_some_iff.mp he).2.1
      exact ⟨d, mem_spacings.mpr
        ⟨before, isSpacing_of_setting setting (mem_spellings_of_side e.side)⟩,
        (variantOf_spelled he hl).symm⟩
    · rw [goes] at hj
      cases hj
  · rintro ⟨c, hc, rfl⟩
    obtain ⟨hc, spacing⟩ := mem_spacings.mp hc
    obtain ⟨i, hi⟩ := List.mem_iff_getElem?.mp hc
    exact exists_of_spacing hi spacing

theorem variantOf_eq_nil_or (cls : String) :
    (variantOf cls).toList = [] ∨ ':' ∈ (variantOf cls).toList :=
  (isVariant_variantOf cls).last.imp_right List.mem_of_getLast?

/-- how classes for alignment begin -/
def alignmentLeads : List String := ["justify-", "items-"]

theorem alignmentLeads_plain : ∀ piece ∈ alignmentLeads, ':' ∉ piece.toList ∧
    piece.toList ≠ [] ∧ piece.toList.head? ≠ some '-' ∧
      ∀ lead ∈ spacingLeads, piece.toList.head? ≠ lead.head? := by decide

/-- a class for spacing can begin like one for alignment only by its variant -/
theorem startsWith_spacing_iff {cls piece : String} (hp : piece ∈ alignmentLeads)
    (spacing : isSpacing cls = true) :
    Text.startsWith piece cls = true ↔ piece.toList <+: (variantOf cls).toList := by
  obtain ⟨noColon, ne, unsigned, other⟩ := alignmentLeads_plain piece hp
  rw [startsWith_iff, toList_class cls]
  refine ⟨fun h => ?_, fun h => h.trans (List.prefix_append _ _)⟩
  rcases variantOf_eq_nil_or cls with bare | colon
  · exfalso
    rw [bare, List.nil_append, toList_signed (baseOf cls)] at h
    obtain ⟨lead, hlead, begins⟩ := isSpacing_iff.mp spacing
    obtain ⟨c, cs, rfl, -⟩ := spacingLeads_unsigned lead hlead
    have first : ∀ {l : List Char}, piece.toList <+: l → piece.toList.head? = l.head? := by
      rintro l ⟨rest, rfl⟩
      rw [List.head?_append_of_ne_nil _ ne]
    have head := first h
    obtain ⟨rest, e⟩ := begins
    rcases signed_fst (baseOf cls) with sign | sign
    · rw [sign, ← e] at head
      exact other _ hlead head
    · rw [sign] at head
      exact unsigned head
  · rcases List.prefix_or_prefix_of_prefix h (List.prefix_append _ _) with h | h
    · exact h
    · exact absurd (h.subset colon) noColon

theorem any_spacing_consolidate {piece : String} (hp : piece ∈ alignmentLeads)
    (classes : List String) :
    (spacings (consolidate classes)).any (Text.startsWith piece)
      = (spacings classes).any (Text.startsWith piece) := by
  have byVariant (cs : List String) : (spacings cs).any (Text.startsWith piece) = true ↔
      ∃ variant : String, piece.toList <+: variant.toList ∧
        ∃ c ∈ spacings cs, variantOf c = variant := by
    rw [List.any_eq_true]
    constructor
    · rintro ⟨c, hc, starts⟩
      exact ⟨_, (startsWith_spacing_iff hp (mem_spacings.mp hc).2).mp starts, c, hc, rfl⟩
    · rintro ⟨_, begins, c, hc, rfl⟩
      exact ⟨c, hc, (startsWith_spacing_iff hp (mem_spacings.mp hc).2).mpr begins⟩
  rw [Bool.eq_iff_iff, byVariant, byVariant]
  simp only [exists_variant_consolidate]

/-! ## later classes -/

theorem isSpacing_of_key {c d : String} (given : (groupKey? c).isSome = true)
    (same : groupKey? d = groupKey? c) : isSpacing d = isSpacing c := by
  obtain ⟨⟨variant, g⟩, key⟩ := Option.isSome_iff_exists.mp given
  rw [key] at same
  obtain ⟨g', hc, e⟩ := Option.map_eq_some_iff.mp key
  obtain ⟨g'', hd, e'⟩ := Option.map_eq_some_iff.mp same
  obtain rfl : g'' = g' := (congrArg Prod.snd e').trans (congrArg Prod.snd e).symm
  rw [isSpacing, isSpacing, hc, hd]

theorem others_cons (c : String) (cs : List String) :
    others (c :: cs) = if isSpacing c then others cs else c :: others cs := by
  rw [others, List.filter_cons]
  cases isSpacing c <;> rfl

theorem any_others {c : String} (given : (groupKey? c).isSome = true) (hs : isSpacing c = false)
    (cs : List String) :
    ((others cs).any fun d => groupKey? d == groupKey? c)
      = cs.any fun d => groupKey? d == groupKey? c := by
  rw [others, List.any_filter]
  refine congrArg (List.any cs) (funext fun d => ?_)
  cases same : groupKey? d == groupKey? c with
  | false => exact Bool.and_false _
  | true =>
    rw [isSpacing_of_key given (beq_iff_eq.mp same), hs]
    rfl

theorem contains_others {c : String} (hs : isSpacing c = false) (cs : List String) :
    (others cs).contains c = cs.contains c := by
  rw [Bool.eq_iff_iff, List.contains_iff_mem, List.contains_iff_mem, mem_others]
  exact and_iff_left hs

/-- whether a class stays when later ones count does not depend on spacing -/
theorem others_dedupeAfter (classes seen : List String) :
    others (dedupeAfter seen classes) = dedupeAfter (others seen) (others classes) := by
  induction classes generalizing seen with
  | nil => rfl
  | cons c cs ih =>
    rw [others_cons, dedupeAfter]
    cases hs : isSpacing c with
    | true =>
      rw [if_pos rfl]
      split
      · exact ih seen
      split
      · exact ih seen
      · rw [others_cons, if_pos hs, ih, others_cons, if_pos hs]
    | false =>
      have later : ((groupKey? c).isSome && (others cs).any fun d => groupKey? d == groupKey? c)
          = ((groupKey? c).isSome && cs.any fun d => groupKey? d == groupKey? c) := by
        cases given : (groupKey? c).isSome with
        | false => rfl
        | true => rw [any_others given hs]
      rw [if_neg Bool.false_ne_true, dedupeAfter, later, contains_others hs]
      split
      · exact ih seen
      split
      · exact ih seen
      · rw [others_cons, if_neg (by rw [hs]; decide), ih, others_cons, if_neg (by rw [hs]; decide)]

theorem others_dedupe (classes : List String) : others (dedupe classes) = dedupe (others classes) :=
  others_dedupeAfter classes []

end Handoff.ClassList
