import Handoff.Proofs.Naming.Fresh
import Handoff.Proofs.Text.Members

/-!
# How names are spelled

The names of props and of imports begin with a lower-case letter, those of components with an
upper-case one, and letters and digits follow.  This holds for layers of all names: what is no letter
and no digit separates words or is dropped, and where nothing is left or a digit would come first,
something is put in front.  Numbers behind a name do not change this.

* `IsWord`                a first character of a kind, and letters and digits behind it;
* `isWord_leadBy`         words to which something is put in front where that is needed;
* `isWord_identifierBase`, `isWord_variableBase`, `isWord_pascal`   the names of layers;
* `given`                 the names for several layers, one after the other;
* `GivesNames`            new names, found in few steps, well spelled, and distinct in a row;
* `givesNames_freshIdentifier`, `givesNames_freshVariable`   so are those of props and of imports.
-/

namespace Handoff.Naming
open Chars

/-- a first character of a kind, and letters and digits behind it -/
def IsWord (first : Char → Bool) (cs : List Char) : Prop :=
  ∃ c rest, cs = c :: rest ∧ first c = true ∧ ∀ d ∈ rest, isAsciiAlnum d = true

section
variable {first : Char → Bool} {cs ds : List Char}

theorem IsWord.append (h : IsWord first cs) (hd : ∀ d ∈ ds, isAsciiAlnum d = true) :
    IsWord first (cs ++ ds) := by
  obtain ⟨c, rest, rfl, hc, alnum⟩ := h
  exact ⟨c, rest ++ ds, rfl, hc, List.forall_mem_append.mpr ⟨alnum, hd⟩⟩

theorem IsWord.alnum (h : IsWord first cs) (hf : ∀ c, first c = true → isAsciiAlnum c = true) :
    ∀ d ∈ cs, isAsciiAlnum d = true := by
  obtain ⟨c, rest, rfl, hc, alnum⟩ := h
  exact List.forall_mem_cons.mpr ⟨hf c hc, alnum⟩

/-- what comes out when words are put together: nothing, or such a name but for a leading digit -/
def IsNearly (first : Char → Bool) (cs : List Char) : Prop :=
  cs = [] ∨ IsWord (fun c => first c || isAsciiDigit c) cs

theorem isWord_leadBy {lead : List Char} (hl : IsWord first lead)
    (hf : ∀ c, first c = true → isAsciiAlnum c = true) (h : IsNearly first cs) :
    IsWord first (leadBy lead cs) := by
  unfold leadBy
  rcases h with rfl | word
  · exact hl.append (List.forall_mem_nil _)
  · split
    · refine hl.append (word.alnum fun c hc => ?_)
      exact (Bool.or_eq_true_iff.mp hc).elim (hf c) isAsciiAlnum_of_digit
    · next letter =>
      obtain ⟨c, rest, rfl, hc, alnum⟩ := word
      have nodigit : isAsciiDigit c = false := by simpa [startsWithDigit] using letter
      exact ⟨c, rest, rfl, by simpa [nodigit] using hc, alnum⟩

end

/-! ## the words of a layer name -/

/-- words of letters and digits -/
def AreWords (ws : List (List Char)) : Prop :=
  ∀ w ∈ ws, IsWord isAsciiAlnum w

theorem isWord_of_ne_nil {w : List Char} (filled : w ≠ []) (h : ∀ d ∈ w, isAsciiAlnum d = true) :
    IsWord isAsciiAlnum w := by
  cases w with
  | nil => exact absurd rfl filled
  | cons c w => exact ⟨c, w, rfl, h c (by simp), fun d hd => h d (by simp [hd])⟩

theorem areWords_alnumRuns (cs : List Char) : AreWords (alnumRuns cs) := by
  intro w hw
  obtain ⟨piece, filled⟩ := List.mem_filter.mp hw
  refine isWord_of_ne_nil (by simpa using filled) fun d hd => ?_
  simpa using not_of_mem_splitWhere w piece d hd

/-- blanks separate words, and what is no letter and no digit either is dropped -/
theorem areWords_words (cs : List Char) :
    AreWords (words (cs.filter fun c => isAsciiAlnum c || isBlank c)) := by
  intro w hw
  obtain ⟨piece, filled⟩ := List.mem_filter.mp hw
  refine isWord_of_ne_nil (by simpa using filled) fun d hd => ?_
  have kept := (List.mem_filter.mp (mem_of_mem_splitWhere piece hd)).2
  rwa [not_of_mem_splitWhere w piece d hd, Bool.or_false] at kept

theorem alnum_lower {w : List Char} (h : ∀ d ∈ w, isAsciiAlnum d = true) :
    ∀ d ∈ lower w, isAsciiAlnum d = true := by
  intro d hd
  obtain ⟨c, hc, rfl⟩ := List.mem_map.mp hd
  exact isAsciiAlnum_toLower (h c hc)

theorem isWord_lower {w : List Char} (h : IsWord isAsciiAlnum w) :
    IsWord (fun c => isAsciiLower c || isAsciiDigit c) (lower w) := by
  obtain ⟨c, rest, rfl, hc, alnum⟩ := h
  refine ⟨c.toLower, lower rest, rfl, ?_, alnum_lower alnum⟩
  rcases toLower_of_alnum hc with letter | ⟨digit, same⟩
  · simp [letter]
  · simp [same, digit]

theorem isWord_capitalize {w : List Char} (h : IsWord isAsciiAlnum w) :
    IsWord (fun c => isAsciiUpper c || isAsciiDigit c) (capitalize w) := by
  obtain ⟨c, rest, rfl, hc, alnum⟩ := h
  refine ⟨c.toUpper, lower rest, rfl, ?_, alnum_lower alnum⟩
  rcases toUpper_of_alnum hc with letter | ⟨digit, same⟩
  · simp [letter]
  · simp [same, digit]

theorem alnum_flatMap_capitalize {ws : List (List Char)} (h : AreWords ws) :
    ∀ d ∈ ws.flatMap capitalize, isAsciiAlnum d = true := by
  intro d hd
  obtain ⟨w, hw, hd⟩ := List.mem_flatMap.mp hd
  refine (isWord_capitalize (h w hw)).alnum (fun c hc => ?_) d hd
  exact (Bool.or_eq_true_iff.mp hc).elim isAsciiAlnum_of_upper isAsciiAlnum_of_digit

theorem isNearly_camelWords {ws : List (List Char)} (h : AreWords ws) :
    IsNearly isAsciiLower (camelWords ws) := by
  cases ws with
  | nil => exact .inl rfl
  | cons w ws =>
    obtain ⟨hw, h⟩ := List.forall_mem_cons.mp h
    exact .inr ((isWord_lower hw).append (alnum_flatMap_capitalize h))

theorem isNearly_capitalized {ws : List (List Char)} (h : AreWords ws) :
    IsNearly isAsciiUpper (ws.flatMap capitalize) := by
  cases ws with
  | nil => exact .inl rfl
  | cons w ws =>
    obtain ⟨hw, h⟩ := List.forall_mem_cons.mp h
    rw [List.flatMap_cons]
    exact .inr ((isWord_capitalize hw).append (alnum_flatMap_capitalize h))

/-! ## names -/

theorem isWord_of_head {first : Char → Bool} {c : Char} {rest : List Char} (hc : first c = true)
    (alnum : rest.all isAsciiAlnum = true) : IsWord first (c :: rest) :=
  ⟨c, rest, rfl, hc, List.all_eq_true.mp alnum⟩

theorem isWord_identifierBase (name : String) :
    IsWord isAsciiLower (identifierBase name).toList := by
  rw [identifierBase, Text.toList_onChars]
  unfold camelChars
  have nearly := isNearly_camelWords (areWords_alnumRuns name.toList)
  generalize camelWords (alnumRuns name.toList) = joined at nearly ⊢
  cases joined with
  | nil => exact isWord_of_head rfl rfl
  | cons c cs =>
    have lead : IsWord isAsciiLower ['p', 'r', 'o', 'p'] := isWord_of_head rfl rfl
    exact isWord_leadBy lead (fun _ => isAsciiAlnum_of_lower) nearly

theorem isWord_variableBase (name : String) : IsWord isAsciiLower (variableBase name).toList := by
  rw [variableBase, Text.toList_onChars]
  dsimp only
  have nearly := isNearly_camelWords (areWords_words name.toList)
  generalize camelWords (words _) = joined at nearly ⊢
  cases joined with
  | nil => exact isWord_of_head rfl rfl
  | cons c cs =>
    have lead : IsWord isAsciiLower ['s', 'v', 'g'] := isWord_of_head rfl rfl
    exact isWord_leadBy lead (fun _ => isAsciiAlnum_of_lower) nearly

theorem isWord_pascal (name : String) : IsWord isAsciiUpper (pascal name).toList := by
  rw [pascal, Text.toList_onChars, pascalChars]
  exact isWord_leadBy (isWord_of_head rfl rfl) (fun _ => isAsciiAlnum_of_upper)
    (isNearly_capitalized (areWords_alnumRuns _))

theorem isWord_candidate {base : String} (h : IsWord isAsciiLower base.toList) (i : Nat) :
    IsWord isAsciiLower (candidate base i).toList := by
  rw [toList_candidate]
  exact h.append fun d hd => isAsciiAlnum_of_digit (isAsciiDigit_of_mem_number d hd)

/-! ## several names -/

/-- the names for several layers, each of them in use for those after it -/
def given (give : List String → String → String) (used : List String) : List String → List String
  | [] => []
  | layer :: layers => give used layer :: given give (give used layer :: used) layers

/-- how layers get their names: each the first free candidate, whatever the order of the names in
use, and well spelled; in a row no two of them are the same -/
structure GivesNames (base : String → String) (give : List String → String → String) : Prop where
  first (used : List String) (layer : String) : IsFirstFree used (base layer) (give used layer)
  spelled (used : List String) (layer : String) : IsWord isAsciiLower (give used layer).toList
  unordered (used used' : List String) (layer : String) (same : ∀ x, x ∈ used ↔ x ∈ used') :
    give used layer = give used' layer
  distinct (layers : List String) : (given give [] layers).Nodup

section
variable {base : String → String} {give : List String → String → String}

theorem given_append (used layers more : List String) :
    given give used (layers ++ more)
      = given give used layers ++ given give ((given give used layers).reverse ++ used) more := by
  induction layers generalizing used with
  | nil => rfl
  | cons layer layers ih =>
    rw [List.cons_append, given, ih, given, List.reverse_cons, List.append_assoc]
    rfl

/-- names in a row do not depend on the order of those in use in front of them -/
theorem GivesNames.given_congr (h : GivesNames base give) (layers : List String) :
    ∀ {used used' : List String}, (∀ x, x ∈ used ↔ x ∈ used') →
      given give used layers = given give used' layers := by
  induction layers with
  | nil => intro _ _ _; rfl
  | cons layer layers ih =>
    intro used used' same
    rw [given, given, h.unordered used used' layer same, ih]
    intro x
    rw [List.mem_cons, List.mem_cons, same x]

/-- names in a row are new, and no two of them are the same -/
theorem nodup_given (new : ∀ used layer, give used layer ∉ used) (layers : List String) :
    ∀ used, (given give used layers).Nodup ∧ ∀ x ∈ given give used layers, x ∉ used := by
  induction layers with
  | nil => exact fun used => ⟨List.nodup_nil, List.forall_mem_nil _⟩
  | cons layer layers ih =>
    intro used
    obtain ⟨distinct, later⟩ := ih (give used layer :: used)
    refine ⟨List.nodup_cons.mpr ⟨fun h => later _ h (by simp), distinct⟩, ?_⟩
    exact List.forall_mem_cons.mpr ⟨new used layer, fun x hx hu => later x hx (by simp [hu])⟩

theorem mem_given {layers : List String} {x : String} : ∀ {used : List String},
    x ∈ given give used layers → ∃ used' layer, x = give used' layer := by
  induction layers with
  | nil => intro used h; cases h
  | cons layer layers ih =>
    intro used h
    rcases List.mem_cons.mp h with rfl | h
    · exact ⟨used, layer, rfl⟩
    · exact ih h

theorem givesNames_fresh (spelled : ∀ layer, IsWord isAsciiLower (base layer).toList) :
    GivesNames base fun used layer => fresh used (base layer) := by
  have first (used : List String) (layer : String) := isFirstFree_fresh used (base layer)
  refine ⟨first, fun used layer => ?_, fun used used' layer => (first used layer).unique
    (first used' layer), fun layers => (nodup_given (fun used layer => ?_) layers []).1⟩
  · obtain ⟨i, -, same, -⟩ := first used layer
    rw [same]
    exact isWord_candidate (spelled layer) i
  · obtain ⟨i, -, -, free, -⟩ := first used layer
    exact free

theorem givesNames_freshIdentifier : GivesNames identifierBase freshIdentifier :=
  givesNames_fresh isWord_identifierBase

theorem givesNames_freshVariable : GivesNames variableBase freshVariable :=
  givesNames_fresh isWord_variableBase

end
end Handoff.Naming
