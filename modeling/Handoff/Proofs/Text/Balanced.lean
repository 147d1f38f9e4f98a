import Handoff.Proofs.Text.Numerals

/-!
# Texts in which brackets are balanced

Only the brackets of a text tell whether they are balanced, and cutting, trimming and joining texts
does not touch the characters that it is not about.

* `filter_trim`, `filter_words`, `filter_replaceAll`   the other characters stay;
* `Bracket.depth?`      how many brackets are open behind a text;
* `Balanced`            none is left open, and none was closed before;
* `Free`                a text has no brackets of a kind, so that it does not matter to what is around;
* `balanced_congr`      texts with the same brackets.
-/

namespace Handoff

/-! ## the characters that stay -/

namespace Chars

variable {p q : Char → Bool} {cs : List Char}

theorem filter_dropWhile (h : ∀ c, q c = true → p c = false) (cs : List Char) :
    (cs.dropWhile q).filter p = cs.filter p := by
  induction cs with
  | nil => rfl
  | cons c cs ih =>
    cases hc : q c with
    | false => rw [List.dropWhile_cons_of_neg (by simp [hc])]
    | true => rw [List.dropWhile_cons_of_pos hc, ih, List.filter_cons_of_neg (by simp [h c hc])]

theorem filter_trimBy (h : ∀ c, q c = true → p c = false) (cs : List Char) :
    (trimBy q cs).filter p = cs.filter p := by
  rw [trimBy, trimEndBy, trimStartBy, List.filter_reverse, filter_dropWhile h, List.filter_reverse,
    List.reverse_reverse, filter_dropWhile h]

theorem filter_splitWhere (h : ∀ c, q c = true → p c = false) (cs : List Char) :
    (splitWhere q cs).flatten.filter p = cs.filter p := by
  induction cs with
  | nil => rfl
  | cons c cs ih =>
    unfold splitWhere
    split
    · next cut => rw [List.flatten_cons, List.nil_append, ih, List.filter_cons_of_neg (by simp [h c cut])]
    · split
      · next none => exact absurd none (splitWhere_ne_nil q cs)
      · next w ws pieces =>
        rw [pieces] at ih
        rw [List.flatten_cons, List.cons_append, ← List.flatten_cons, List.filter_cons, ih,
          List.filter_cons]

theorem flatten_words (cs : List Char) : (words cs).flatten = (splitWhere isBlank cs).flatten := by
  rw [words, fields]
  induction splitWhere isBlank cs with
  | nil => rfl
  | cons w ws ih => cases w <;> simp [ih]

theorem filter_joinWith {sep : List Char} (h : sep.filter p = []) (ws : List (List Char)) :
    (joinWith sep ws).filter p = ws.flatten.filter p := by
  fun_induction joinWith sep ws with
  | case1 => rfl
  | case2 w => rw [List.flatten_singleton]
  | case3 w v ws ih =>
    rw [List.filter_append, List.filter_append, h, List.append_nil, ih, ← List.filter_append,
      ← List.flatten_cons]

/-- the words of a text, joined with anything else than the characters that are looked for -/
theorem filter_words {sep : List Char} (hs : sep.filter p = [])
    (h : ∀ c, isBlank c = true → p c = false) (cs : List Char) :
    (joinWith sep (words cs)).filter p = cs.filter p := by
  rw [filter_joinWith hs, flatten_words, filter_splitWhere h]

theorem filter_replaceFrom {piece new : List Char} (hp : piece.filter p = [])
    (hn : new.filter p = []) (filled : piece ≠ []) (skip : Nat) (cs : List Char) :
    (replaceFrom piece new skip cs).filter p = (cs.drop skip).filter p := by
  fun_induction replaceFrom piece new skip cs with
  | case1 skip => rw [List.drop_nil]
  | case2 skip c cs ih => rw [ih, List.drop_succ_cons]
  | case3 c cs starts ih =>
    obtain ⟨rest, e⟩ := Option.isSome_iff_exists.mp starts
    have text : c :: cs = piece ++ rest := dropPrefix?_eq_some.mp e
    obtain ⟨d, piece', rfl⟩ := List.exists_cons_of_ne_nil filled
    have behind : cs.drop ((d :: piece').length - 1) = rest := by
      rw [(List.cons.inj text).2, List.length_cons, Nat.add_sub_cancel]
      exact List.drop_left
    rw [List.filter_append, hn, List.nil_append, ih, behind, List.drop_zero, text,
      List.filter_append, hp, List.nil_append]
  | case4 c cs other ih => rw [List.filter_cons, ih, List.drop_zero, List.drop_zero, List.filter_cons]

theorem filter_replaceAll {piece new : List Char} (hp : piece.filter p = [])
    (hn : new.filter p = []) (filled : piece ≠ []) (cs : List Char) :
    (replaceAll piece new cs).filter p = cs.filter p :=
  filter_replaceFrom hp hn filled 0 cs

theorem filter_replaceChar {c : Char} {new : List Char} (hc : p c = false)
    (hn : new.filter p = []) (cs : List Char) : (replaceChar c new cs).filter p = cs.filter p := by
  induction cs with
  | nil => rfl
  | cons d cs ih =>
    rw [replaceChar, List.flatMap_cons, ← replaceChar, List.filter_append, ih]
    by_cases same : d = c
    · rw [if_pos same, hn, List.nil_append, List.filter_cons_of_neg (by simp [same, hc])]
    · rw [if_neg same, ← List.filter_append, List.singleton_append]

end Chars

/-! ## depths -/

/-- a kind of brackets -/
inductive Bracket where
  | round
  | square
deriving DecidableEq, Repr

namespace Bracket

def opening : Bracket → Char
  | .round => '('
  | .square => '['

def closing : Bracket → Char
  | .round => ')'
  | .square => ']'

def isMark (b : Bracket) (c : Char) : Bool := c == b.opening || c == b.closing

/-- how many brackets are open behind a text, unless one is closed that was not open -/
def depth? (b : Bracket) (depth : Nat) : List Char → Option Nat
  | [] => some depth
  | c :: cs =>
    if c = b.opening then b.depth? (depth + 1) cs
    else if c = b.closing then if depth = 0 then none else b.depth? (depth - 1) cs
    else b.depth? depth cs

variable {b : Bracket} {depth : Nat} {cs : List Char}

theorem depth?_of_not_mark {c : Char} (h : b.isMark c = false) (depth : Nat) (cs : List Char) :
    b.depth? depth (c :: cs) = b.depth? depth cs := by
  rw [isMark, Bool.or_eq_false_iff, beq_eq_false_iff_ne, beq_eq_false_iff_ne] at h
  rw [depth?, if_neg h.1, if_neg h.2]

theorem depth?_append (b : Bracket) (depth : Nat) (cs ds : List Char) :
    b.depth? depth (cs ++ ds) = (b.depth? depth cs).bind fun depth' => b.depth? depth' ds := by
  fun_induction b.depth? depth cs with
  | case1 => rfl
  | case2 depth cs ih => rw [List.cons_append, depth?, if_pos rfl, ih]
  | case3 cs ne =>
    rw [List.cons_append, depth?, if_neg ne, if_pos rfl, if_pos rfl]
    rfl
  | case4 depth cs ne open' ih =>
    rw [List.cons_append, depth?, if_neg ne, if_pos rfl, if_neg open', ih]
  | case5 depth c cs ne ne' ih => rw [List.cons_append, depth?, if_neg ne, if_neg ne', ih]

/-- only the brackets count -/
theorem depth?_filter (b : Bracket) (depth : Nat) (cs : List Char) :
    b.depth? depth (cs.filter b.isMark) = b.depth? depth cs := by
  induction cs generalizing depth with
  | nil => rfl
  | cons c cs ih =>
    cases mark : b.isMark c with
    | false => rw [List.filter_cons_of_neg (by simp [mark]), ih, depth?_of_not_mark mark]
    | true =>
      rw [List.filter_cons_of_pos mark, depth?, depth?, ih, ih, ih]

theorem isMark_of_blank {c : Char} (h : Chars.isBlank c = true) : b.isMark c = false := by
  have solid : ∀ b : Bracket, Chars.isBlank b.opening = false ∧ Chars.isBlank b.closing = false := by
    rintro (_ | _) <;> decide
  rw [isMark, Bool.or_eq_false_iff, beq_eq_false_iff_ne, beq_eq_false_iff_ne]
  constructor <;> rintro rfl
  · rw [(solid b).1] at h
    cases h
  · rw [(solid b).2] at h
    cases h

theorem isMark_of_numeral {c : Char} (h : IsNumeral c) : b.isMark c = false := by
  have other : ∀ b : Bracket, ¬ IsNumeral b.opening ∧ ¬ IsNumeral b.closing := by
    rintro (_ | _) <;> decide
  rw [isMark, Bool.or_eq_false_iff, beq_eq_false_iff_ne, beq_eq_false_iff_ne]
  exact ⟨fun e => (other b).1 (e ▸ h), fun e => (other b).2 (e ▸ h)⟩

end Bracket

/-! ## balanced texts -/

/-- every bracket of this kind that is opened is closed again, and no other is -/
def Balanced (b : Bracket) (s : String) : Prop := b.depth? 0 s.toList = some 0

/-- a text without brackets of this kind -/
def Free (b : Bracket) (s : String) : Prop := ∀ c ∈ s.toList, b.isMark c = false

section
variable {b : Bracket} {s t u : String}

instance : Decidable (Balanced b s) := inferInstanceAs (Decidable (_ = _))

instance : Decidable (Free b s) := List.decidableBAll (fun c => b.isMark c = false) s.toList

/-- the brackets of a text -/
def Bracket.marks (b : Bracket) (s : String) : List Char := s.toList.filter b.isMark

theorem balanced_congr (h : b.marks s = b.marks t) : Balanced b s ↔ Balanced b t := by
  have same : s.toList.filter b.isMark = t.toList.filter b.isMark := h
  rw [Balanced, Balanced, ← b.depth?_filter 0 s.toList, same, b.depth?_filter]

theorem free_iff_marks : Free b s ↔ b.marks s = [] := by
  simp [Free, Bracket.marks, List.filter_eq_nil_iff]

theorem free_congr (h : b.marks s = b.marks t) : Free b s ↔ Free b t := by
  rw [free_iff_marks, free_iff_marks, h]

theorem marks_append (b : Bracket) (s t : String) : b.marks (s ++ t) = b.marks s ++ b.marks t := by
  rw [Bracket.marks, String.toList_append, List.filter_append]
  rfl

theorem free_append_iff : Free b (s ++ t) ↔ Free b s ∧ Free b t := by
  rw [Free, String.toList_append, List.forall_mem_append]
  rfl

/-- what has only characters of a text is as free of brackets as this is -/
theorem Free.of_subset (h : Free b s) (sub : t.toList ⊆ s.toList) : Free b t :=
  fun c hc => h c (sub hc)

theorem Free.balanced (h : Free b s) : Balanced b s := by
  have empty : b.marks s = b.marks "" := free_iff_marks.mp h
  exact (balanced_congr empty).mpr rfl

theorem Balanced.append (hs : Balanced b s) (ht : Balanced b t) : Balanced b (s ++ t) := by
  rw [Balanced, String.toList_append, Bracket.depth?_append, hs]
  exact ht

/-- what is free of brackets does not matter to what is around -/
theorem balanced_between (hs : Free b s) (hu : Free b u) :
    Balanced b (s ++ t ++ u) ↔ Balanced b t := by
  refine balanced_congr ?_
  rw [marks_append, marks_append, free_iff_marks.mp hs, free_iff_marks.mp hu, List.nil_append,
    List.append_nil]

theorem Numeral.free (h : Numeral s) : Free b s := fun c hc => Bracket.isMark_of_numeral (h c hc)

theorem marks_trim (b : Bracket) (s : String) : b.marks (Text.trim s) = b.marks s := by
  rw [Bracket.marks, Text.trim, Text.toList_onChars]
  exact Chars.filter_trimBy (fun _ => Bracket.isMark_of_blank) _

theorem marks_words {sep : String} (hs : Free b sep) (s : String) :
    b.marks (Text.joinWith sep (Text.words s)) = b.marks s := by
  have chars : (Text.words s).map String.toList = Chars.words s.toList := by
    rw [Text.words, List.map_map]
    exact List.map_id'' (fun _ => String.toList_ofList) _
  rw [Bracket.marks, Text.joinWith, String.toList_ofList, chars]
  exact Chars.filter_words (free_iff_marks.mp hs) (fun _ => Bracket.isMark_of_blank) _

theorem marks_replaceAll {piece new : String} (hp : Free b piece) (hn : Free b new)
    (filled : piece.toList ≠ []) (s : String) :
    b.marks (Text.replaceAll piece new s) = b.marks s := by
  rw [Bracket.marks, Text.replaceAll, Text.toList_onChars]
  exact Chars.filter_replaceAll (free_iff_marks.mp hp) (free_iff_marks.mp hn) filled _

end

end Handoff
