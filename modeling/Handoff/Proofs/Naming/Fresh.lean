import Handoff.Naming.Unique
import Handoff.Proofs.Text.Ascii
import Mathlib.Data.List.Nodup
import Mathlib.Data.List.Perm.Subperm

/-!
# Fresh names

The candidates for a name are distinct, and there is one more than names in use, so one of them is
free: what `fresh` gives was not in use.

* `candidate_injective`    no two candidates for a name are the same;
* `isFirstFree_fresh`      a fresh name is the first candidate that is not in use;
* `fresh_eq_candidate`     so it is a candidate that was not in use;
* `Handed`                 names that were handed out for certain layers, each when it was fresh;
* `reservedWords`          the words that cannot be names of bindings;
* `eq_base_of_reserved`    a reserved word is never a numbered candidate.
-/

namespace Handoff.Naming

/-- what stands behind the base of a candidate -/
def number (i : Nat) : List Char := if i = 0 then [] else (toString (i + 1)).toList

theorem toList_candidate (base : String) (i : Nat) :
    (candidate base i).toList = base.toList ++ number i := by
  unfold candidate number
  split
  · rw [List.append_nil]
  · rw [String.toList_append]

theorem number_eq_nil {i : Nat} : number i = [] ↔ i = 0 := by
  unfold number
  split
  · next h => exact iff_of_true rfl h
  · next h =>
    refine iff_of_false ?_ h
    rw [Nat.toString_eq_ofList_toDigits, String.toList_ofList]
    exact Nat.toDigits_ne_nil

theorem isAsciiDigit_of_mem_number {i : Nat} : ∀ d ∈ number i, Chars.isAsciiDigit d = true := by
  intro d hd
  unfold number at hd
  split at hd
  · exact absurd hd List.not_mem_nil
  · exact Chars.isAsciiDigit_of_mem_toString d hd

theorem number_inj {i j : Nat} (h : number i = number j) : i = j := by
  by_cases hi : i = 0
  · rw [hi] at h ⊢
    exact (number_eq_nil.mp h.symm).symm
  · have hj : j ≠ 0 := fun hj => hi (number_eq_nil.mp (h.trans (number_eq_nil.mpr hj)))
    unfold number at h
    rw [if_neg hi, if_neg hj] at h
    exact Nat.succ.inj (Chars.toString_inj h)

theorem candidate_injective (base : String) : Function.Injective (candidate base) := by
  intro i j h
  have h := congrArg String.toList h
  rw [toList_candidate, toList_candidate] at h
  exact number_inj (List.append_cancel_left h)

/-- a name is the first of the candidates that is not in use, and there are no more candidates in
front of it than names in use: so many steps the search for it takes -/
def IsFirstFree (used : List String) (base name : String) : Prop :=
  ∃ i ≤ used.length, name = candidate base i ∧ name ∉ used ∧ ∀ j < i, candidate base j ∈ used

theorem isFirstFree_fresh (used : List String) (base : String) :
    IsFirstFree used base (fresh used base) := by
  have distinct : ((List.range (used.length + 1)).map (candidate base)).Nodup :=
    List.Nodup.map (candidate_injective base) List.nodup_range
  have count : ((List.range (used.length + 1)).map (candidate base)).length = used.length + 1 := by
    rw [List.length_map, List.length_range]
  unfold fresh
  rw [List.find?_map]
  cases h : List.find? ((fun n => !used.contains n) ∘ candidate base) _ with
  | none =>
    -- all candidates would be in use, which are more than there are names in use
    have all : (List.range (used.length + 1)).map (candidate base) ⊆ used := fun x hx => by
      obtain ⟨i, hi, rfl⟩ := List.mem_map.mp hx
      simpa using List.find?_eq_none.mp h i hi
    have := (List.subperm_of_subset distinct all).length_le
    omega
  | some i =>
    obtain ⟨free, bound, before⟩ := List.find?_range_eq_some.mp h
    refine ⟨i, ?_, rfl, by simpa using free, fun j hj => by simpa using before j hj⟩
    exact Nat.lt_succ_iff.mp (List.mem_range.mp bound)

/-- there is one such name, and it only depends on the set of the names in use -/
theorem IsFirstFree.unique {used used' : List String} {base a b : String}
    (ha : IsFirstFree used base a) (hb : IsFirstFree used' base b)
    (same : ∀ x, x ∈ used ↔ x ∈ used') : a = b := by
  obtain ⟨i, -, rfl, free, before⟩ := ha
  obtain ⟨j, -, rfl, free', before'⟩ := hb
  rcases Nat.lt_trichotomy i j with lt | rfl | lt
  · exact absurd ((same _).mpr (before' i lt)) free
  · rfl
  · exact absurd ((same _).mp (before j lt)) free'

theorem fresh_eq_candidate (used : List String) (base : String) :
    ∃ i, fresh used base = candidate base i ∧ candidate base i ∉ used := by
  obtain ⟨i, -, same, free, -⟩ := isFirstFree_fresh used base
  exact ⟨i, same, same ▸ free⟩

/-- names that were handed out for layers: each is a candidate for one, and none comes twice -/
structure Handed (base : String → String) (layers used : List String) : Prop where
  nodup : used.Nodup
  spelled : ∀ x ∈ used, ∃ layer ∈ layers, ∃ i, x = candidate (base layer) i

namespace Handed
variable {base : String → String} {layers used used' : List String}

theorem nil (base : String → String) (layers : List String) : Handed base layers [] :=
  ⟨List.nodup_nil, List.forall_mem_nil _⟩

theorem perm (h : Handed base layers used) (same : used.Perm used') : Handed base layers used' :=
  ⟨same.nodup_iff.mp h.nodup, fun x hx => h.spelled x (same.mem_iff.mpr hx)⟩

theorem cons (h : Handed base layers used) {layer : String} (hl : layer ∈ layers) :
    Handed base layers (fresh used (base layer) :: used) := by
  obtain ⟨i, e, new⟩ := fresh_eq_candidate used (base layer)
  rw [e]
  exact ⟨List.nodup_cons.mpr ⟨new, h.nodup⟩,
    List.forall_mem_cons.mpr ⟨⟨layer, hl, i, rfl⟩, h.spelled⟩⟩

end Handed

/-! ## reserved words -/

/-- the words that a module cannot bind, also those that are reserved in strict code only -/
def reservedWords : List String := ["await", "break", "case", "catch", "class", "const", "continue",
  "debugger", "default", "delete", "do", "else", "enum", "export", "extends", "false", "finally",
  "for", "function", "if", "implements", "import", "in", "instanceof", "interface", "let", "new",
  "null", "package", "private", "protected", "public", "return", "static", "super", "switch",
  "this", "throw", "true", "try", "typeof", "var", "void", "while", "with", "yield"]

/-- reserved words do not end in a digit, so they have no number -/
theorem eq_base_of_reserved {base : String} {i : Nat} (h : candidate base i ∈ reservedWords) :
    candidate base i = base := by
  have unnumbered : reservedWords.all (fun word =>
      word.toList.getLast?.all fun c => !Chars.isAsciiDigit c) = true := by decide +kernel
  have last := List.all_eq_true.mp unnumbered _ h
  rw [toList_candidate] at last
  by_cases hi : i = 0
  · rw [hi]
    rfl
  · have filled : number i ≠ [] := fun e => hi (number_eq_nil.mp e)
    rw [List.getLast?_append_of_ne_nil _ filled, List.getLast?_eq_some_getLast filled,
      Option.all_some, isAsciiDigit_of_mem_number _ (List.getLast_mem filled)] at last
    cases last

/-- of the names that were handed out, a reserved word is what a layer gives by itself -/
theorem Handed.base_of_reserved {base : String → String} {layers used : List String}
    (h : Handed base layers used) {x : String} (hx : x ∈ used) (reserved : x ∈ reservedWords) :
    ∃ layer ∈ layers, x = base layer := by
  obtain ⟨layer, hl, i, rfl⟩ := h.spelled x hx
  exact ⟨layer, hl, eq_base_of_reserved reserved⟩

end Handoff.Naming
