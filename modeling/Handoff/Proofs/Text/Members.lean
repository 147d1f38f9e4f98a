import Handoff.Text.Basic

/-!
# The characters of texts that were taken apart and put together

The operations on texts write no characters of their own besides those that they are given.

* `mem_of_mem_trimBy`, `mem_of_mem_splitWhere`, `mem_of_mem_words`   parts of a text;
* `trimBy_around`, `trimBy_spec`   what is left of a text;
* `splitWhere_around`, `head_splitWhere`   and of one around a separator;
* `splitOn_intercalate`   pieces that come apart again;
* `mem_joinWith`, `mem_intercalate`   pieces put together;
* `mem_replaceChar`, `mem_replaceAll`   what is replaced, and by what;
* `dropPrefix?_eq_some_iff`, `dropSuffix?_eq_some_iff`   beginnings and ends of strings;
* `subset_trim`, `subset_of_mem_words`, `subset_of_cut?`, …   the characters of their parts;
* `Within`             one text is written somewhere in another, which has pieces of its own.
-/

namespace Handoff.Chars

variable {c : Char} {cs : List Char}

theorem mem_of_mem_trimBy {p : Char → Bool} (h : c ∈ trimBy p cs) : c ∈ cs := by
  have h := (List.dropWhile_sublist p).subset (List.mem_reverse.mp h)
  exact (List.dropWhile_sublist p).subset (List.mem_reverse.mp h)

/-- only what stands around a text goes -/
theorem trimBy_around {p : Char → Bool} {front mid back : List Char}
    (hf : ∀ c ∈ front, p c = true) (hb : ∀ c ∈ back, p c = true)
    (first : mid.head?.all fun c => !p c) (last : mid.getLast?.all fun c => !p c) :
    trimBy p (front ++ (mid ++ back)) = mid := by
  have stops {l k : List Char} (h : l.head?.all fun c => !p c) (hl : ∀ c ∈ k, p c = true) :
      (l ++ k).dropWhile p = if l = [] then [] else l ++ k := by
    cases l with
    | nil =>
      have all : (k ++ []).dropWhile p = [] := List.dropWhile_append_of_pos hl
      rwa [List.append_nil] at all
    | cons c l => exact List.dropWhile_cons_of_neg (by simpa using h)
  rw [trimBy, trimStartBy, List.dropWhile_append_of_pos hf, stops first hb, trimEndBy]
  split
  · next e => rw [e]; rfl
  · next filled =>
    have back' : ∀ c ∈ back.reverse, p c = true := fun c hc => hb c (List.mem_reverse.mp hc)
    have ends := stops (l := mid.reverse) (k := []) (by rwa [List.head?_reverse])
      (List.forall_mem_nil _)
    rw [List.append_nil, if_neg (by simpa using filled)] at ends
    rw [List.reverse_append, List.dropWhile_append_of_pos back', ends, List.reverse_reverse]

/-- what is left of a text is a part of it that neither begins nor ends with such a character -/
theorem trimBy_spec (p : Char → Bool) (cs : List Char) : trimBy p cs <:+: cs ∧
    (∀ c ∈ (trimBy p cs).head?, p c = false) ∧ ∀ c ∈ (trimBy p cs).getLast?, p c = false := by
  have stops (l : List Char) : ∀ c ∈ (l.dropWhile p).head?, p c = false := by
    intro c hc
    have first := List.head?_dropWhile_not p l
    rwa [hc] at first
  have front : trimBy p cs <+: cs.dropWhile p := by
    have back := List.dropWhile_suffix (l := (cs.dropWhile p).reverse) p
    rwa [← List.reverse_prefix, List.reverse_reverse] at back
  refine ⟨front.isInfix.trans (List.dropWhile_suffix p).isInfix, fun c hc => ?_, ?_⟩
  · obtain ⟨back, e⟩ := front
    refine stops cs c ?_
    rw [← e, List.head?_append, hc]
    rfl
  · rw [trimBy, trimEndBy, List.getLast?_reverse]
    exact stops _

theorem mem_of_mem_splitWhere {p : Char → Bool} {w : List Char} (hw : w ∈ splitWhere p cs)
    (h : c ∈ w) : c ∈ cs := by
  induction cs generalizing w with
  | nil =>
    rw [splitWhere, List.mem_singleton] at hw
    rw [hw] at h
    exact h
  | cons d cs ih =>
    unfold splitWhere at hw
    split at hw
    · rcases List.mem_cons.mp hw with rfl | hw
      · exact absurd h List.not_mem_nil
      · exact List.mem_cons_of_mem _ (ih hw h)
    · split at hw
      · rw [List.mem_singleton.mp hw] at h
        exact List.mem_cons.mpr (.inl (List.mem_singleton.mp h))
      · next q ps pieces =>
        rw [pieces] at ih
        rcases List.mem_cons.mp hw with rfl | hw
        · rcases List.mem_cons.mp h with rfl | h
          · exact List.mem_cons_self
          · exact List.mem_cons_of_mem _ (ih List.mem_cons_self h)
        · exact List.mem_cons_of_mem _ (ih (List.mem_cons_of_mem _ hw) h)

/-- a piece has none of the characters that the text is cut at -/
theorem not_of_mem_splitWhere {p : Char → Bool} :
    ∀ w ∈ splitWhere p cs, ∀ c ∈ w, p c = false := by
  induction cs with
  | nil => simp [splitWhere]
  | cons d cs ih =>
    unfold splitWhere
    split
    · exact List.forall_mem_cons.mpr ⟨List.forall_mem_nil _, ih⟩
    · next other =>
      have head : p d = false := Bool.eq_false_iff.mpr other
      split
      · exact List.forall_mem_singleton.mpr (List.forall_mem_singleton.mpr head)
      · next q ps pieces =>
        rw [pieces] at ih
        obtain ⟨first, later⟩ := List.forall_mem_cons.mp ih
        exact List.forall_mem_cons.mpr ⟨List.forall_mem_cons.mpr ⟨head, first⟩, later⟩

theorem splitWhere_alone {p : Char → Bool} (h : ∀ x ∈ cs, p x = false) :
    splitWhere p cs = [cs] := by
  induction cs with
  | nil => rfl
  | cons x cs ih =>
    obtain ⟨hx, h⟩ := List.forall_mem_cons.mp h
    rw [splitWhere, hx, if_neg Bool.false_ne_true, ih h]

/-- a separator cuts apart what is on its sides -/
theorem splitWhere_around {p : Char → Bool} (hc : p c = true) (a b : List Char) :
    splitWhere p (a ++ c :: b) = splitWhere p a ++ splitWhere p b := by
  induction a with
  | nil => exact if_pos hc
  | cons x a ih =>
    obtain ⟨w, ws, pieces⟩ := List.exists_cons_of_ne_nil (splitWhere_ne_nil p a)
    rw [List.cons_append, splitWhere, ih, splitWhere, pieces]
    split <;> rfl

/-- the first separator ends the first piece -/
theorem splitWhere_front {p : Char → Bool} {a : List Char} (ha : ∀ x ∈ a, p x = false)
    (hc : p c = true) (b : List Char) : splitWhere p (a ++ c :: b) = a :: splitWhere p b := by
  rw [splitWhere_around hc, splitWhere_alone ha, List.singleton_append]

/-- a text with one separator has two pieces -/
theorem splitWhere_append {p : Char → Bool} {a b : List Char} (ha : ∀ x ∈ a, p x = false)
    (hc : p c = true) (hb : ∀ x ∈ b, p x = false) : splitWhere p (a ++ c :: b) = [a, b] := by
  rw [splitWhere_front ha hc, splitWhere_alone hb]

/-- pieces come apart where they were put together -/
theorem splitOn_intercalate {ws : List (List Char)} (filled : ws ≠ []) (flat : ∀ w ∈ ws, c ∉ w) :
    splitOn c (List.intercalate [c] ws) = ws := by
  induction ws with
  | nil => exact absurd rfl filled
  | cons w ws ih =>
    obtain ⟨first, later⟩ := List.forall_mem_cons.mp flat
    have whole : ∀ x ∈ w, (x == c) = false := fun x hx =>
      beq_false_of_ne fun same => first (same ▸ hx)
    cases ws with
    | nil =>
      rw [List.intercalate_singleton]
      exact splitWhere_alone whole
    | cons w' ws =>
      rw [List.intercalate_cons_cons, List.append_assoc, List.singleton_append, splitOn,
        splitWhere_front whole (beq_self_eq_true c)]
      exact congrArg _ (ih (List.cons_ne_nil w' ws) later)

/-- the first piece goes up to the first separator -/
theorem head_splitWhere (p : Char → Bool) (cs : List Char) :
    (splitWhere p cs).headD [] = cs.takeWhile fun c => !p c := by
  induction cs with
  | nil => rfl
  | cons c cs ih =>
    unfold splitWhere
    cases hc : p c with
    | true => rw [if_pos rfl, List.takeWhile_cons_of_neg (by simp [hc])]; rfl
    | false =>
      rw [if_neg Bool.false_ne_true, List.takeWhile_cons_of_pos (by simp [hc]), ← ih]
      split <;> next pieces => rw [pieces]; rfl

theorem mem_of_mem_words {w : List Char} (hw : w ∈ words cs) (h : c ∈ w) : c ∈ cs :=
  mem_of_mem_splitWhere (List.mem_filter.mp hw).1 h

theorem mem_of_contains (h : contains [c] cs = true) : c ∈ cs := by
  induction cs with
  | nil => cases h
  | cons d cs ih =>
    by_cases same : c = d
    · exact same ▸ List.mem_cons_self
    · rw [contains, cutAt?, dropPrefix?, if_neg same, Option.isSome_map] at h
      exact List.mem_cons_of_mem d (ih h)

theorem mem_joinWith {sep : List Char} {ps : List (List Char)} (h : c ∈ joinWith sep ps) :
    c ∈ sep ∨ ∃ p ∈ ps, c ∈ p := by
  fun_induction joinWith sep ps with
  | case1 => exact absurd h List.not_mem_nil
  | case2 p => exact .inr ⟨p, List.mem_singleton_self p, h⟩
  | case3 p q ps ih =>
    rcases List.mem_append.mp h with h | h
    · rcases List.mem_append.mp h with h | h
      · exact .inr ⟨p, List.mem_cons_self, h⟩
      · exact .inl h
    · exact (ih h).imp_right fun ⟨w, hw, hc⟩ => ⟨w, List.mem_cons_of_mem _ hw, hc⟩

theorem joinWith_eq_intercalate (sep : List Char) (ps : List (List Char)) :
    joinWith sep ps = List.intercalate sep ps := by
  fun_induction joinWith sep ps with
  | case1 => rfl
  | case2 p => exact (List.intercalate_singleton ..).symm
  | case3 p q ps ih => rw [ih, List.intercalate_cons_cons]

theorem mem_intercalate {sep : List Char} {ps : List (List Char)}
    (h : c ∈ List.intercalate sep ps) : c ∈ sep ∨ ∃ p ∈ ps, c ∈ p :=
  mem_joinWith (joinWith_eq_intercalate sep ps ▸ h)

theorem mem_replaceChar {d : Char} {new : List Char} :
    d ∈ replaceChar c new cs ↔ c ∈ cs ∧ d ∈ new ∨ d ∈ cs ∧ d ≠ c := by
  unfold replaceChar
  rw [List.mem_flatMap]
  constructor
  · rintro ⟨x, hx, hd⟩
    split at hd
    · next e => exact .inl ⟨e ▸ hx, hd⟩
    · next e =>
      rw [List.mem_singleton] at hd
      exact .inr ⟨hd ▸ hx, hd ▸ e⟩
  · rintro (⟨hc, hd⟩ | ⟨hd, ne⟩)
    · exact ⟨c, hc, by rw [if_pos rfl]; exact hd⟩
    · exact ⟨d, hd, by rw [if_neg ne]; exact List.mem_singleton_self d⟩

theorem mem_replaceFrom {piece new : List Char} {skip : Nat}
    (h : c ∈ replaceFrom piece new skip cs) : c ∈ new ∨ c ∈ cs := by
  fun_induction replaceFrom piece new skip cs with
  | case1 => exact absurd h List.not_mem_nil
  | case2 skip d cs ih => exact (ih h).imp_right (List.mem_cons_of_mem _)
  | case3 d cs starts ih =>
    rcases List.mem_append.mp h with h | h
    · exact .inl h
    · exact (ih h).imp_right (List.mem_cons_of_mem _)
  | case4 d cs starts ih =>
    rcases List.mem_cons.mp h with rfl | h
    · exact .inr List.mem_cons_self
    · exact (ih h).imp_right (List.mem_cons_of_mem _)

theorem mem_replaceAll {piece new : List Char} (h : c ∈ replaceAll piece new cs) :
    c ∈ new ∨ c ∈ cs := mem_replaceFrom h

end Handoff.Chars

namespace Handoff.Text

/-! ## beginnings and ends -/

theorem dropPrefix?_eq_some_iff {piece s rest : String} :
    dropPrefix? piece s = some rest ↔ s = piece ++ rest := by
  rw [dropPrefix?, Option.map_eq_some_iff]
  constructor
  · rintro ⟨cs, found, rfl⟩
    rw [← String.toList_inj, String.toList_append, String.toList_ofList]
    exact Chars.dropPrefix?_eq_some.mp found
  · rintro rfl
    exact ⟨rest.toList, Chars.dropPrefix?_eq_some.mpr String.toList_append, String.ofList_toList⟩

theorem dropSuffix?_eq_some_iff {piece s rest : String} :
    dropSuffix? piece s = some rest ↔ s = rest ++ piece := by
  rw [dropSuffix?, Option.map_eq_some_iff]
  constructor
  · rintro ⟨cs, found, rfl⟩
    rw [← String.toList_inj, String.toList_append, String.toList_ofList]
    exact Chars.dropSuffix?_eq_some.mp found
  · rintro rfl
    exact ⟨rest.toList, Chars.dropSuffix?_eq_some.mpr String.toList_append, String.ofList_toList⟩

theorem dropPrefix?_append (piece rest : String) : dropPrefix? piece (piece ++ rest) = some rest :=
  dropPrefix?_eq_some_iff.mpr rfl

theorem dropSuffix?_append (piece rest : String) : dropSuffix? piece (rest ++ piece) = some rest :=
  dropSuffix?_eq_some_iff.mpr rfl

theorem endsWith_iff {piece s : String} :
    endsWith piece s = true ↔ piece.toList <:+ s.toList := by
  rw [endsWith, Chars.endsWith, Option.isSome_iff_exists]
  exact exists_congr fun rest => Chars.dropSuffix?_eq_some.trans eq_comm

/-! ## parts of texts -/

section
variable {s piece w a b : String} {c : Char}

theorem splitOn_intercalate {c : Char} {separator : String} (one : separator.toList = [c])
    {ws : List String} (filled : ws ≠ []) (flat : ∀ w ∈ ws, c ∉ w.toList) :
    splitOn c (String.intercalate separator ws) = ws := by
  have chars : Chars.splitOn c (List.intercalate [c] (ws.map String.toList))
      = ws.map String.toList :=
    Chars.splitOn_intercalate (mt List.map_eq_nil_iff.mp filled) (List.forall_mem_map.mpr flat)
  rw [splitOn, splitWhere, String.toList_intercalate, one]
  refine (congrArg (List.map String.ofList) chars).trans ?_
  rw [List.map_map]
  exact List.map_id'' (fun _ => String.ofList_toList) ws

theorem subset_trimBy (p : Char → Bool) (s : String) : (trimBy p s).toList ⊆ s.toList := by
  rw [trimBy, toList_onChars]
  exact fun _ => Chars.mem_of_mem_trimBy

theorem subset_trim (s : String) : (trim s).toList ⊆ s.toList := subset_trimBy Chars.isBlank s

theorem subset_of_mem_splitWhere {p : Char → Bool} (hw : w ∈ splitWhere p s) :
    w.toList ⊆ s.toList := by
  obtain ⟨cs, hcs, rfl⟩ := List.mem_map.mp hw
  rw [String.toList_ofList]
  exact fun _ => Chars.mem_of_mem_splitWhere hcs

theorem subset_firstPart (c : Char) (s : String) :
    ((splitOn c s).headD "").toList ⊆ s.toList := by
  cases parts : splitOn c s with
  | nil => exact List.nil_subset _
  | cons w ws => exact subset_of_mem_splitWhere (parts ▸ List.mem_cons_self)

theorem subset_of_mem_words (hw : w ∈ words s) : w.toList ⊆ s.toList := by
  obtain ⟨cs, hcs, rfl⟩ := List.mem_map.mp hw
  rw [String.toList_ofList]
  exact fun _ => Chars.mem_of_mem_words hcs

theorem subset_of_dropPrefix? (h : dropPrefix? piece s = some w) : w.toList ⊆ s.toList := by
  rw [dropPrefix?_eq_some_iff.mp h, String.toList_append]
  exact List.subset_append_right _ _

theorem subset_of_dropSuffix? (h : dropSuffix? piece s = some w) : w.toList ⊆ s.toList := by
  rw [dropSuffix?_eq_some_iff.mp h, String.toList_append]
  exact List.subset_append_left _ _

theorem subset_of_cut? (h : cut? c s = some (a, b)) :
    a.toList ⊆ s.toList ∧ b.toList ⊆ s.toList := by
  rw [(cut?_eq_some_iff.mp h).1]
  exact ⟨List.subset_append_left _ _, fun d hd => List.mem_append_right _ (List.mem_cons_of_mem _ hd)⟩

end

/-! ## texts that are written in other texts -/

/-- `s` is written somewhere in `t` -/
def Within (s t : String) : Prop := s.toList <:+: t.toList

variable {s t u : String}

theorem Within.refl (s : String) : Within s s := List.infix_refl _

theorem Within.trans (h : Within s t) (h' : Within t u) : Within s u := List.IsInfix.trans h h'

theorem Within.length_le (h : Within s t) : s.length ≤ t.length := by
  rw [← String.length_toList, ← String.length_toList]
  exact List.IsInfix.length_le h

/-- no text has all others within it -/
theorem exists_not_within (s : String) : ∃ t : String, ¬ Within t s := by
  refine ⟨String.ofList (List.replicate (s.length + 1) 'x'), fun within => ?_⟩
  have short := within.length_le
  rw [String.length_ofList, List.length_replicate] at short
  exact Nat.not_succ_le_self _ short

theorem Within.append_right (h : Within s t) (u : String) : Within s (t ++ u) := by
  rw [Within, String.toList_append]
  exact List.IsInfix.trans h (List.prefix_append _ _).isInfix

theorem Within.append_left (h : Within s t) (u : String) : Within s (u ++ t) := by
  rw [Within, String.toList_append]
  exact List.IsInfix.trans h (List.suffix_append _ _).isInfix

/-- a piece between two others -/
theorem within_middle (s t u : String) : Within t (s ++ t ++ u) :=
  ((Within.refl t).append_left s).append_right u

theorem within_intercalate {separator : String} {pieces : List String} (h : s ∈ pieces) :
    Within s (String.intercalate separator pieces) := by
  have chars (ps : List (List Char)) (p : List Char) (hp : p ∈ ps) :
      p <:+: List.intercalate separator.toList ps := by
    induction ps with
    | nil => cases hp
    | cons q ps ih =>
      cases ps with
      | nil =>
        refine ⟨[], [], ?_⟩
        rw [List.mem_singleton.mp hp, List.intercalate_singleton, List.nil_append, List.append_nil]
      | cons q' ps =>
        rw [List.intercalate_cons_cons, List.append_assoc]
        rcases List.mem_cons.mp hp with rfl | hp
        · exact (List.prefix_append _ _).isInfix
        · exact ((ih hp).trans (List.suffix_append separator.toList _).isInfix).trans
            (List.suffix_append q _).isInfix
  rw [Within, String.toList_intercalate]
  exact chars _ _ (List.mem_map_of_mem h)

end Handoff.Text
