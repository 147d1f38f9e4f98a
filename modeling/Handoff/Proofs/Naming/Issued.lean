import Handoff.Naming.Unique

/-!
# Names that a registry hands out

An element name is an identifier, and behind it a counter where the identifier was used before.  An
identifier has no underscore, so the first underscore of a name is where its counter begins: a
numbered name is never the plain name of another layer.

* `IsElementName`        the form of the names;
* `numbered_inj`         base and counter can be read off a name;
* `issueAll`             the names of several layers, one after the other;
* `issueAll_nodup`       they are pairwise distinct, whatever was handed out before;
* `HandsOut`             what a walk does to a registry: it hands out certain names, and maybe
                         others that are then lost.
-/

namespace Handoff
namespace Naming

/-- a letter, then letters and digits, then perhaps an underscore and at least two digits -/
def IsElementName (name : String) : Prop :=
  ∃ c cs suffix, name.toList = c :: cs ++ suffix ∧ Chars.isAsciiAlpha c = true ∧
    (∀ d ∈ cs, Chars.isAsciiAlnum d = true) ∧
    (suffix = [] ∨ ∃ ds, suffix = '_' :: ds ∧ 2 ≤ ds.length ∧ ∀ d ∈ ds, Chars.isAsciiDigit d = true)

/-- the form of an identifier -/
def IsIdentifier (cs : List Char) : Prop :=
  ∃ c rest, cs = c :: rest ∧ Chars.isAsciiAlpha c = true ∧
    ∀ d ∈ rest, Chars.isAsciiAlnum d = true

theorem identifierChars_form (cs : List Char) : IsIdentifier (identifierChars cs) := by
  have alnum : ∀ d ∈ cs.filter Chars.isAsciiAlnum, Chars.isAsciiAlnum d = true :=
    fun d hd => (List.mem_filter.mp hd).2
  unfold identifierChars leadBy
  generalize cs.filter Chars.isAsciiAlnum = kept at alnum
  split
  · refine ⟨'C', _, rfl, by decide, fun d hd => ?_⟩
    have hd : d ∈ component.tail ++ kept := hd
    rcases List.mem_append.mp hd with hd | hd
    · have own : component.tail.all Chars.isAsciiAlnum = true := by decide
      exact List.all_eq_true.mp own d hd
    · exact alnum d hd
  · next h =>
    cases kept with
    | nil => exact absurd rfl h
    | cons c rest =>
      refine ⟨c, rest, rfl, ?_, fun d hd => alnum d (List.mem_cons_of_mem _ hd)⟩
      have hc := alnum c List.mem_cons_self
      simp only [List.isEmpty_cons, startsWithDigit, Bool.false_or, Bool.not_eq_true] at h
      rw [Chars.isAsciiAlnum, h, Bool.or_false] at hc
      exact hc

theorem isIdentifier_alnum {cs : List Char} (h : IsIdentifier cs) :
    ∀ d ∈ cs, Chars.isAsciiAlnum d = true := by
  obtain ⟨c, rest, rfl, hc, hrest⟩ := h
  intro d hd
  rcases List.mem_cons.mp hd with rfl | hd
  · rw [Chars.isAsciiAlnum, hc, Bool.true_or]
  · exact hrest d hd

end Naming

/-! ## counters -/

namespace Decimal

theorem toList_padLeft (width n : Nat) :
    (padLeft width n).toList
      = List.replicate (width - (Nat.toDigits 10 n).length) '0' ++ Nat.toDigits 10 n := by
  unfold padLeft zeros
  rw [Nat.toString_eq_ofList_toDigits]
  simp

/-- the number can be read back, zeros in front do not count -/
theorem ofDigitChars_padLeft (width n : Nat) :
    Nat.ofDigitChars 10 (padLeft width n).toList 0 = n := by
  rw [toList_padLeft, Nat.ofDigitChars_append, Nat.ofDigitChars_replicate_zero, Nat.mul_zero,
    Nat.ofDigitChars_ten_toDigits]

theorem le_length_padLeft (width n : Nat) : width ≤ (padLeft width n).toList.length := by
  rw [toList_padLeft, List.length_append, List.length_replicate]
  omega

theorem isAsciiDigit_padLeft (width n : Nat) :
    ∀ d ∈ (padLeft width n).toList, Chars.isAsciiDigit d = true := by
  intro d hd
  rw [toList_padLeft, List.mem_append] at hd
  rcases hd with hd | hd
  · rw [List.eq_of_mem_replicate hd]
    decide
  · exact Nat.isDigit_of_mem_toDigits (by decide) (by decide) hd

end Decimal

namespace NameRegistry
open Naming

/-- what stands behind the base of the `n`-th name -/
def suffix (n : Nat) : List Char := if n = 0 then [] else '_' :: (Decimal.padLeft 2 n).toList

theorem toList_numbered (base : String) (n : Nat) :
    (numbered base n).toList = base.toList ++ suffix n := by
  unfold numbered suffix
  split
  · rw [List.append_nil]
  · simp

theorem suffix_inj {m n : Nat} (h : suffix m = suffix n) : m = n := by
  unfold suffix at h
  by_cases hm : m = 0
  · by_cases hn : n = 0
    · rw [hm, hn]
    · rw [if_pos hm, if_neg hn] at h
      cases h
  · by_cases hn : n = 0
    · rw [if_neg hm, if_pos hn] at h
      cases h
    · rw [if_neg hm, if_neg hn] at h
      rw [← Decimal.ofDigitChars_padLeft 2 m, (List.cons.inj h).2, Decimal.ofDigitChars_padLeft]

/-- a base without underscores ends where the counter begins -/
theorem takeWhile_numbered {base : String} (h : '_' ∉ base.toList) (n : Nat) :
    (numbered base n).toList.takeWhile (· ≠ '_') = base.toList := by
  have plain : ∀ c ∈ base.toList, decide (c ≠ '_') = true :=
    fun c hc => decide_eq_true fun e => h (e ▸ hc)
  rw [toList_numbered, List.takeWhile_append_of_pos plain]
  have rest : (suffix n).takeWhile (· ≠ '_') = [] := by
    unfold suffix
    split
    · rfl
    · exact List.takeWhile_cons_of_neg (by decide)
  rw [rest, List.append_nil]

/-- base and counter can be read off a name -/
theorem numbered_inj {a b : String} {m n : Nat} (ha : '_' ∉ a.toList) (hb : '_' ∉ b.toList)
    (h : numbered a m = numbered b n) : a = b ∧ m = n := by
  have base : a.toList = b.toList := by
    rw [← takeWhile_numbered ha m, h, takeWhile_numbered hb n]
  refine ⟨String.toList_injective base, suffix_inj ?_⟩
  have h := congrArg String.toList h
  rw [toList_numbered, toList_numbered, base] at h
  exact List.append_cancel_left h

theorem underscore_not_mem_identifier (layer : String) :
    '_' ∉ (identifier layer).toList := by
  intro h
  rw [identifier, Text.toList_onChars] at h
  exact absurd (isIdentifier_alnum (identifierChars_form _) _ h) (by decide)

theorem numbered_form (layer : String) (n : Nat) :
    IsElementName (numbered (identifier layer) n) := by
  obtain ⟨c, cs, e, hc, hcs⟩ := identifierChars_form layer.toList
  refine ⟨c, cs, suffix n, ?_, hc, hcs, ?_⟩
  · rw [toList_numbered, identifier, Text.toList_onChars, e]
  · unfold suffix
    split
    · exact .inl rfl
    · exact .inr ⟨_, rfl, Decimal.le_length_padLeft 2 n, Decimal.isAsciiDigit_padLeft 2 n⟩

/-! ## names for several layers -/

/-- the names for layers that ask one after the other, and the registry behind the last -/
def issueAll (r : NameRegistry) : List String → List String × NameRegistry
  | [] => ([], r)
  | layer :: layers =>
    ((r.issue layer).1 :: ((r.issue layer).2.issueAll layers).1,
      ((r.issue layer).2.issueAll layers).2)

theorem issueAll_append (r : NameRegistry) (a b : List String) :
    r.issueAll (a ++ b) = ((r.issueAll a).1 ++ ((r.issueAll a).2.issueAll b).1,
      ((r.issueAll a).2.issueAll b).2) := by
  induction a generalizing r with
  | nil => rfl
  | cons layer a ih =>
    rw [List.cons_append]
    show (_ :: _, _) = _
    rw [ih]
    rfl

/-- every name has a counter that is no smaller than the uses of its base before -/
theorem mem_issueAll {r : NameRegistry} {layers : List String} {name : String}
    (h : name ∈ (r.issueAll layers).1) : ∃ layer n,
      name = numbered (identifier layer) n ∧ r.issued.count (identifier layer) ≤ n := by
  induction layers generalizing r with
  | nil => exact absurd h List.not_mem_nil
  | cons layer layers ih =>
    rcases List.mem_cons.mp h with rfl | h
    · exact ⟨layer, _, rfl, Nat.le_refl _⟩
    · obtain ⟨other, n, rfl, hn⟩ := ih h
      exact ⟨other, n, rfl, Nat.le_trans (List.count_le_count_cons ..) hn⟩

theorem issueAll_nodup (r : NameRegistry) (layers : List String) : (r.issueAll layers).1.Nodup := by
  induction layers generalizing r with
  | nil => exact List.nodup_nil
  | cons layer layers ih =>
    refine List.nodup_cons.mpr ⟨fun h => ?_, ih _⟩
    obtain ⟨other, n, e, hn⟩ := mem_issueAll h
    obtain ⟨same, rfl⟩ := numbered_inj (underscore_not_mem_identifier layer)
      (underscore_not_mem_identifier other) e
    -- the base was used once more by then, so its counter has grown
    rw [← same] at hn
    have grown : (r.issue layer).2.issued.count (identifier layer)
        = r.issued.count (identifier layer) + 1 := List.count_cons_self
    omega

theorem issueAll_form {r : NameRegistry} {layers : List String} {name : String}
    (h : name ∈ (r.issueAll layers).1) : IsElementName name := by
  obtain ⟨layer, n, rfl, _⟩ := mem_issueAll h
  exact numbered_form layer n

/-! ## what a walk does to a registry -/

/-- between two registries the names `given` were handed out in this order, and maybe others -/
def HandsOut (r r' : NameRegistry) (given : List String) : Prop :=
  ∃ layers, r' = (r.issueAll layers).2 ∧ given.Sublist (r.issueAll layers).1

namespace HandsOut
variable {r r' r'' : NameRegistry} {a b : List String}

theorem refl (r : NameRegistry) : HandsOut r r [] := ⟨[], rfl, List.Sublist.refl _⟩

theorem issue (r : NameRegistry) (layer : String) :
    HandsOut r (r.issue layer).2 [(r.issue layer).1] := ⟨[layer], rfl, List.Sublist.refl _⟩

theorem trans (h : HandsOut r r' a) (h' : HandsOut r' r'' b) : HandsOut r r'' (a ++ b) := by
  obtain ⟨layers, rfl, ha⟩ := h
  obtain ⟨layers', rfl, hb⟩ := h'
  refine ⟨layers ++ layers', ?_, ?_⟩
  · rw [issueAll_append]
  · rw [issueAll_append]
    exact ha.append hb

/-- names that were handed out may be lost again -/
theorem lose (h : HandsOut r r' a) (hb : b.Sublist a) : HandsOut r r' b := by
  obtain ⟨layers, e, ha⟩ := h
  exact ⟨layers, e, hb.trans ha⟩

theorem nodup (h : HandsOut r r' a) : a.Nodup := by
  obtain ⟨layers, _, ha⟩ := h
  exact ha.nodup (issueAll_nodup r layers)

theorem form (h : HandsOut r r' a) : ∀ name ∈ a, IsElementName name := by
  obtain ⟨layers, _, ha⟩ := h
  exact fun name hn => issueAll_form (ha.subset hn)

end HandsOut
end NameRegistry
end Handoff
