import Handoff.Proofs.Text.Enclosed
import Handoff.Proofs.Text.Numerals

/-!
# Texts without quotes

No operation on texts writes a quote of its own, and numbers are written without any.

* `Ordinary`                 a text means nothing to any reader;
* `ordinary_trimmed`, `ordinary_plain`, `ordinary_toString`   numbers are ordinary;
* `Unquoted`                 a text has no double quote;
* `Unquoted.trim`, `Unquoted.replaceAll`, `unquoted_intercalate`, …   neither has what is made of it.
-/

namespace Handoff
open Enclosure

/-- a text that means nothing to any reader -/
def Ordinary (s : String) : Prop := ∀ c ∈ s.toList, IsOrdinary c

instance (s : String) : Decidable (Ordinary s) := List.decidableBAll IsOrdinary s.toList

/-- a text without double quotes -/
def Unquoted (s : String) : Prop := '"' ∉ s.toList

instance (s : String) : Decidable (Unquoted s) := inferInstanceAs (Decidable (¬ _))

theorem Ordinary.unquoted {s : String} (h : Ordinary s) : Unquoted s := fun quote =>
  (h _ quote).1 rfl

/-! ## ordinary texts -/

section
variable {s t : String} {c : Char}

theorem Ordinary.append (hs : Ordinary s) (ht : Ordinary t) : Ordinary (s ++ t) := by
  intro c hc
  rw [String.toList_append] at hc
  exact (List.mem_append.mp hc).elim (hs c) (ht c)

theorem ordinary_ofList {cs : List Char} (h : ∀ c ∈ cs, IsOrdinary c) :
    Ordinary (String.ofList cs) := by
  rwa [Ordinary, String.toList_ofList]

theorem isOrdinary_of_alnum (h : Chars.isAsciiAlnum c = true) : IsOrdinary c :=
  ⟨Chars.ne_of_alnum h (by decide), Chars.ne_of_alnum h (by decide), Chars.ne_of_alnum h (by decide),
    Chars.ne_of_alnum h (by decide)⟩

theorem isOrdinary_of_numeral (h : IsNumeral c) : IsOrdinary c := by
  rcases h with alnum | rfl | rfl
  · exact isOrdinary_of_alnum alnum
  · decide
  · decide

theorem Numeral.ordinary (h : Numeral s) : Ordinary s := fun c hc => isOrdinary_of_numeral (h c hc)

theorem ordinary_toString (n : Nat) : Ordinary (toString n) := (numeral_toString n).ordinary

theorem Decimal.ordinary_plain (x : Float) : Ordinary (plain x) := (numeral_plain x).ordinary

theorem Decimal.ordinary_trimmed (x : Float) : Ordinary (trimmed x) := (numeral_trimmed x).ordinary

end

/-! ## texts without quotes -/

section
variable {s t piece rest : String}

theorem unquoted_append_iff : Unquoted (s ++ t) ↔ Unquoted s ∧ Unquoted t := by
  rw [Unquoted, String.toList_append, List.mem_append, not_or]
  rfl

theorem Unquoted.append (hs : Unquoted s) (ht : Unquoted t) : Unquoted (s ++ t) :=
  unquoted_append_iff.mpr ⟨hs, ht⟩

theorem unquoted_ofList {cs : List Char} : Unquoted (String.ofList cs) ↔ '"' ∉ cs := by
  rw [Unquoted, String.toList_ofList]

/-- what is made of the characters of a text -/
theorem Unquoted.onChars {f : List Char → List Char} (h : Unquoted s)
    (sub : '"' ∈ f s.toList → '"' ∈ s.toList) : Unquoted (Text.onChars f s) := by
  rw [Unquoted, Text.toList_onChars]
  exact fun quote => h (sub quote)

theorem Unquoted.of_subset (h : Unquoted s) (sub : t.toList ⊆ s.toList) : Unquoted t :=
  fun quote => h (sub quote)

theorem Unquoted.trim (h : Unquoted s) : Unquoted (Text.trim s) := h.of_subset (Text.subset_trim s)

theorem Unquoted.trimBy (h : Unquoted s) (p : Char → Bool) : Unquoted (Text.trimBy p s) :=
  h.of_subset (Text.subset_trimBy p s)

theorem Unquoted.replaceAll {new : String} (h : Unquoted s) (hn : Unquoted new) :
    Unquoted (Text.replaceAll piece new s) :=
  h.onChars fun quote => (Chars.mem_replaceAll quote).resolve_left hn

theorem Unquoted.replaceChar {c : Char} {new : String} (h : Unquoted s) (hn : Unquoted new) :
    Unquoted (Text.replaceChar c new s) :=
  h.onChars fun quote => ((Chars.mem_replaceChar.mp quote).resolve_left fun both => hn both.2).1

theorem Unquoted.splitOn {c : Char} (h : Unquoted s) : ∀ w ∈ Text.splitOn c s, Unquoted w :=
  fun _ hw => h.of_subset (Text.subset_of_mem_splitWhere hw)

theorem Unquoted.firstPart (h : Unquoted s) (c : Char) :
    Unquoted ((Text.splitOn c s).headD "") := h.of_subset (Text.subset_firstPart c s)

theorem Unquoted.words (h : Unquoted s) : ∀ w ∈ Text.words s, Unquoted w :=
  fun _ hw => h.of_subset (Text.subset_of_mem_words hw)

theorem Unquoted.dropPrefix? (h : Unquoted s) (hr : Text.dropPrefix? piece s = some rest) :
    Unquoted rest := h.of_subset (Text.subset_of_dropPrefix? hr)

theorem Unquoted.dropSuffix? (h : Unquoted s) (hr : Text.dropSuffix? piece s = some rest) :
    Unquoted rest := h.of_subset (Text.subset_of_dropSuffix? hr)

theorem Unquoted.cut? {c : Char} {a b : String} (h : Unquoted s)
    (hc : Text.cut? c s = some (a, b)) : Unquoted a ∧ Unquoted b :=
  (Text.subset_of_cut? hc).imp h.of_subset h.of_subset

theorem unquoted_joinWith {sep : String} {ps : List String} (hs : Unquoted sep)
    (h : ∀ p ∈ ps, Unquoted p) : Unquoted (Text.joinWith sep ps) := by
  refine unquoted_ofList.mpr fun quote => ?_
  obtain ⟨cs, hcs, quote⟩ := (Chars.mem_joinWith quote).resolve_left hs
  obtain ⟨p, hp, rfl⟩ := List.mem_map.mp hcs
  exact h p hp quote

theorem unquoted_intercalate {sep : String} {ps : List String} (hs : Unquoted sep)
    (h : ∀ p ∈ ps, Unquoted p) : Unquoted (String.intercalate sep ps) := by
  rw [Unquoted, String.toList_intercalate]
  intro quote
  obtain ⟨cs, hcs, quote⟩ := (Chars.mem_intercalate quote).resolve_left hs
  obtain ⟨p, hp, rfl⟩ := List.mem_map.mp hcs
  exact h p hp quote

end

end Handoff
