import Handoff.Decimal.Notation
import Handoff.Decimal.Reader
import Handoff.Proofs.Text.Ascii
import Handoff.Proofs.Text.Members
import Handoff.Text.Basic

/-!
# How numbers are written

Numbers are written with letters, digits, points and dashes, whatever the number and the form.  So
there are no blanks in them, and they stay in one piece where texts are taken apart at blanks.

* `Numeral`                        a text of such characters;
* `forall_toDigits`                the digits of any base;
* `numeral_fixed`, `numeral_plain`, `numeral_trimmed`, `numeral_toString`   the forms of numbers;
* `single_sign_trimmed`            no number begins with two dashes;
* `numeral_of_parse?`              what is read as a number;
* `Solid`                          a text has no blank;
* `Numeral.solid`, `solid_words`, `words_joinWith`   numbers and words have none;
* `trim_around`, `Solid.trim`      what is left without the blanks around a text;
* `Solid.append`, `solid_joinWith`, …   neither has what is made of such texts.
-/

namespace Handoff

def IsNumeral (c : Char) : Prop := Chars.isAsciiAlnum c = true ∨ c = '-' ∨ c = '.'

instance (c : Char) : Decidable (IsNumeral c) := inferInstanceAs (Decidable (_ ∨ _))

/-- a text that numbers can be written with -/
def Numeral (s : String) : Prop := ∀ c ∈ s.toList, IsNumeral c

instance (s : String) : Decidable (Numeral s) := List.decidableBAll IsNumeral s.toList

section
variable {s t : String} {c : Char}

theorem Numeral.append (hs : Numeral s) (ht : Numeral t) : Numeral (s ++ t) := by
  intro c hc
  rw [String.toList_append] at hc
  exact (List.mem_append.mp hc).elim (hs c) (ht c)

theorem numeral_ofList {cs : List Char} (h : ∀ c ∈ cs, IsNumeral c) :
    Numeral (String.ofList cs) := by
  rwa [Numeral, String.toList_ofList]

theorem isNumeral_toUpper (h : IsNumeral c) : IsNumeral c.toUpper := by
  rcases h with alnum | rfl | rfl
  · exact .inl (Chars.isAsciiAlnum_toUpper alnum)
  · decide
  · decide

/-- what holds of the digits below a base holds of all characters of a number -/
theorem forall_toDigits {P : Char → Prop} {base : Nat} (two : 1 < base)
    (digit : ∀ d < base, P d.digitChar) (n : Nat) : ∀ c ∈ Nat.toDigits base n, P c := by
  induction n using Nat.strongRecOn with
  | ind n ih =>
    by_cases small : n < base
    · rw [Nat.toDigits_of_lt_base small]
      exact List.forall_mem_singleton.mpr (digit n small)
    · rw [Nat.toDigits_of_base_le two (by omega)]
      refine List.forall_mem_append.mpr ⟨ih _ (Nat.div_lt_self (by omega) two), ?_⟩
      exact List.forall_mem_singleton.mpr (digit _ (Nat.mod_lt n (by omega)))

theorem numeral_of_mem_toDigits {base n : Nat} (two : 1 < base) (sixteen : base ≤ 16) :
    ∀ c ∈ Nat.toDigits base n, IsNumeral c :=
  forall_toDigits two (fun d hd =>
    (by decide : ∀ d < 16, IsNumeral (Nat.digitChar d)) d (by omega)) n

theorem numeral_toString (n : Nat) : Numeral (toString n) := by
  rw [Nat.toString_eq_ofList_toDigits]
  exact numeral_ofList (numeral_of_mem_toDigits (by decide) (by decide))

end

namespace Decimal

theorem numeral_zeros (n : Nat) : Numeral (zeros n) :=
  numeral_ofList fun c hc => by rw [List.eq_of_mem_replicate hc]; decide

theorem numeral_nonFinite (x : Float) : Numeral (nonFinite x) := by
  unfold nonFinite
  split
  · decide
  · split <;> decide

theorem numeral_withPlaces (places n : Nat) : Numeral (withPlaces places n) := by
  unfold withPlaces padLeft
  split
  · exact numeral_toString n
  · exact ((numeral_toString _).append (by decide)).append
      ((numeral_zeros _).append (numeral_toString _))

theorem numeral_sign (negative : Bool) : Numeral (sign negative) := by
  cases negative <;> decide

theorem numeral_fixed (places : Nat) (x : Float) : Numeral (fixed places x) := by
  unfold fixed
  split
  · exact numeral_nonFinite x
  · exact (numeral_sign _).append (numeral_withPlaces _ _)

theorem numeral_plain (x : Float) : Numeral (plain x) := by
  unfold plain Digits.positional
  split
  · exact numeral_nonFinite x
  · refine (numeral_sign _).append ?_
    split
    · split
      · decide
      · exact (numeral_toString _).append (numeral_zeros _)
    · exact numeral_withPlaces _ _

theorem numeral_trimmed (x : Float) : Numeral (trimmed x) := by
  unfold trimmed
  dsimp only
  split
  · decide
  · split
    · decide
    · refine numeral_ofList fun c hc => numeral_fixed 2 ((x * 100.0).round / 100.0) c ?_
      have hc := (List.dropWhile_sublist _).subset (List.mem_reverse.mp hc)
      exact List.mem_reverse.mp ((List.dropWhile_sublist _).subset hc)

/-! ### dashes -/

theorem no_dash_toString (n : Nat) : '-' ∉ (toString n).toList := by
  have digits := forall_toDigits (P := fun c => c ≠ '-') (by decide)
    (by decide : ∀ d < 10, Nat.digitChar d ≠ '-') n
  rw [Nat.toString_eq_ofList_toDigits, String.toList_ofList]
  exact fun dash => digits '-' dash rfl

theorem no_dash_zeros (n : Nat) : '-' ∉ (zeros n).toList := by
  rw [zeros, String.toList_ofList]
  exact fun dash => absurd (List.eq_of_mem_replicate dash) (by decide)

theorem no_dash_withPlaces (places n : Nat) : '-' ∉ (withPlaces places n).toList := by
  unfold withPlaces padLeft
  split
  · exact no_dash_toString n
  · simp only [String.toList_append, List.mem_append, not_or]
    exact ⟨⟨no_dash_toString _, by decide⟩, no_dash_zeros _, no_dash_toString _⟩

/-- a number has one sign at most -/
theorem single_sign_fixed (places : Nat) (x : Float) :
    ¬ ['-', '-'] <+: (fixed places x).toList := by
  unfold fixed
  split
  · unfold nonFinite
    split
    · decide
    · split <;> decide
  · next b _ =>
    rintro ⟨rest, e⟩
    have plain := no_dash_withPlaces places
      (roundDiv (b.numerator * tenTo places) b.denominator)
    generalize withPlaces places _ = digits at e plain
    rw [String.toList_append] at e
    unfold sign at e
    split at e
    · have tail : '-' :: rest = digits.toList := (List.cons.inj e).2
      exact plain (tail ▸ List.mem_cons_self)
    · have whole : '-' :: '-' :: rest = digits.toList := e
      exact plain (whole ▸ List.mem_cons_self)

theorem begins_of_dropTrailingZeros (cs : List Char) : dropTrailingZeros cs <+: cs := by
  rw [← List.reverse_suffix, dropTrailingZeros, List.reverse_reverse]
  exact (List.dropWhile_suffix _).trans (List.dropWhile_suffix _)

theorem single_sign_trimmed (x : Float) : ¬ ['-', '-'] <+: (trimmed x).toList := by
  unfold trimmed
  dsimp only
  split
  · decide
  · split
    · decide
    · rw [String.toList_ofList]
      exact fun h => single_sign_fixed 2 _ (h.trans (begins_of_dropTrailingZeros _))

/-! ### what is read as a number -/

theorem isNumeral_of_digit {c : Char} (h : c.isDigit = true) : IsNumeral c :=
  .inl (Chars.isAsciiAlnum_of_digit (Chars.isAsciiDigit_iff.mpr (by
    rw [Char.isDigit, Bool.and_eq_true, decide_eq_true_eq, decide_eq_true_eq] at h
    exact h)))

theorem isNumeral_of_toLower {c : Char} (h : Chars.isAsciiLower c.toLower = true) : IsNumeral c := by
  cases upper : Chars.isAsciiUpper c with
  | true => exact .inl (Chars.isAsciiAlnum_iff.mpr (.inl (Chars.isAsciiAlpha_iff.mpr (.inr upper))))
  | false =>
    rw [Chars.toLower_of_not_upper upper] at h
    exact .inl (Chars.isAsciiAlnum_of_lower h)

theorem sign_or_mem_splitSign {c : Char} {cs : List Char} (h : c ∈ cs) :
    (c = '-' ∨ c = '+') ∨ c ∈ (splitSign cs).2 := by
  unfold splitSign
  split
  · exact (List.mem_cons.mp h).imp_left .inl
  · exact (List.mem_cons.mp h).imp_left .inr
  · exact .inr h

theorem numeral_of_exponent? {cs : List Char} {e : Int} (h : exponent? cs = some e) :
    ∀ c ∈ cs, IsNumeral c ∨ c = '+' := by
  unfold exponent? at h
  split at h
  · exact List.forall_mem_nil _
  · next c cs =>
    split at h
    · next mark =>
      dsimp only at h
      split at h
      · cases h
      · next all =>
        rw [not_or, Decidable.not_not] at all
        refine List.forall_mem_cons.mpr ⟨.inl ?_, fun d hd => ?_⟩
        · rcases mark with rfl | rfl <;> decide
        · rcases sign_or_mem_splitSign hd with (rfl | rfl) | hd
          · exact .inl (by decide)
          · exact .inr rfl
          · exact .inl (isNumeral_of_digit (List.all_eq_true.mp all.2 d hd))
    · cases h

theorem numeral_of_unsigned? {cs : List Char} {s : Scan} (h : unsigned? cs = some s) :
    ∀ c ∈ cs, IsNumeral c ∨ c = '+' := by
  have digit {c : Char} {ds : List Char} (hc : c ∈ ds.takeWhile Char.isDigit) :
      IsNumeral c ∨ c = '+' := .inl (isNumeral_of_digit (List.all_eq_true.mp List.all_takeWhile c hc))
  intro c hc
  rw [← List.takeWhile_append_dropWhile (p := Char.isDigit) (l := cs)] at hc
  refine (List.mem_append.mp hc).elim digit fun hc => ?_
  have behind {fraction rest : List Char} (h : (if (cs.takeWhile Char.isDigit).isEmpty &&
      fraction.isEmpty then none else (exponent? rest).bind fun e =>
        some (Scan.mk (cs.takeWhile Char.isDigit) fraction e)) = some s) :
      ∀ c ∈ rest, IsNumeral c ∨ c = '+' := by
    split at h
    · cases h
    · obtain ⟨e, he, -⟩ := Option.bind_eq_some_iff.mp h
      exact numeral_of_exponent? he
  unfold unsigned? at h
  dsimp only at h
  split at h
  · next r point =>
    rw [point] at hc
    rcases List.mem_cons.mp hc with rfl | hc
    · exact .inl (by decide)
    · rw [← List.takeWhile_append_dropWhile (p := Char.isDigit) (l := r)] at hc
      exact (List.mem_append.mp hc).elim digit (behind h c)
  · exact behind h c hc

/-- numbers are read from the characters that they are written with, and from plus signs -/
theorem numeral_of_parse? {s : String} {x : Float} (h : parse? s = some x) :
    ∀ c ∈ s.toList, IsNumeral c ∨ c = '+' := by
  intro c hc
  rcases sign_or_mem_splitSign hc with (rfl | rfl) | hc
  · exact .inl (by decide)
  · exact .inr rfl
  unfold parse? parseChars? at h
  dsimp only at h
  have word {text : String} (letters : text.toList.all Chars.isAsciiLower = true)
      (read : String.ofList (asciiLower (splitSign s.toList).2) = text) : IsNumeral c := by
    rw [← read, String.toList_ofList] at letters
    exact isNumeral_of_toLower (List.all_eq_true.mp letters _ (List.mem_map_of_mem hc))
  split at h
  · next read => exact .inl (read.elim (word (by decide)) (word (by decide)))
  split at h
  · next read => exact .inl (word (by decide) read)
  · obtain ⟨scan, hs, -⟩ := Option.map_eq_some_iff.mp h
    exact numeral_of_unsigned? hs c hc

end Decimal

/-! ## texts without blanks -/

/-- a text without blanks -/
def Solid (s : String) : Prop := ∀ c ∈ s.toList, Chars.isBlank c = false

instance (s : String) : Decidable (Solid s) :=
  List.decidableBAll (fun c => Chars.isBlank c = false) s.toList

section
variable {s t : String}

theorem solid_append_iff : Solid (s ++ t) ↔ Solid s ∧ Solid t := by
  rw [Solid, String.toList_append, List.forall_mem_append]
  rfl

theorem Solid.append (hs : Solid s) (ht : Solid t) : Solid (s ++ t) := solid_append_iff.mpr ⟨hs, ht⟩

theorem solid_ofList {cs : List Char} : Solid (String.ofList cs) ↔
    ∀ c ∈ cs, Chars.isBlank c = false := by
  rw [Solid, String.toList_ofList]

theorem Numeral.solid (h : Numeral s) : Solid s := fun c hc => by
  rcases h c hc with alnum | rfl | rfl
  · exact Chars.isBlank_of_alnum alnum
  · decide
  · decide

/-- blanks go from around a text that begins and ends with other characters -/
theorem trim_around {a m b : List Char} (ha : ∀ c ∈ a, Chars.isBlank c = true)
    (hb : ∀ c ∈ b, Chars.isBlank c = true) (first : ∀ c ∈ m.head?, Chars.isBlank c = false)
    (last : ∀ c ∈ m.getLast?, Chars.isBlank c = false) :
    Chars.trim (a ++ (m ++ b)) = m := by
  have none {o : Option Char} (h : ∀ c ∈ o, Chars.isBlank c = false) :
      o.all fun c => !Chars.isBlank c := by
    cases o with
    | none => rfl
    | some c => exact (Bool.not_eq_true' _).mpr (h c rfl)
  exact Chars.trimBy_around ha hb (none first) (none last)

theorem Solid.trim (h : Solid s) : Text.trim s = s := by
  have same := trim_around (a := []) (b := []) (List.forall_mem_nil _) (List.forall_mem_nil _)
    (fun c hc => h c (List.mem_of_mem_head? hc)) (fun c hc => h c (List.mem_of_mem_getLast? hc))
  rw [List.nil_append, List.append_nil] at same
  rw [Text.trim, Text.onChars, same, String.ofList_toList]

theorem solid_words (s : String) : ∀ w ∈ Text.words s, Solid w := by
  intro w hw
  obtain ⟨cs, hcs, rfl⟩ := List.mem_map.mp hw
  exact solid_ofList.mpr (Chars.not_of_mem_splitWhere cs (List.mem_filter.mp hcs).1)

/-- words that are joined with spaces are found again -/
theorem words_joinWith {ws : List String} (solid : ∀ w ∈ ws, Solid w) (filled : ∀ w ∈ ws, w ≠ "") :
    Text.words (Text.joinWith " " ws) = ws := by
  have pieces : ∀ ws : List String, (∀ w ∈ ws, Solid w) → ws ≠ [] →
      Chars.splitWhere Chars.isBlank (Chars.joinWith [' '] (ws.map String.toList))
        = ws.map String.toList := by
    intro ws
    induction ws with
    | nil => exact fun _ filled => absurd rfl filled
    | cons w ws ih =>
      intro solid _
      obtain ⟨hw, solid⟩ := List.forall_mem_cons.mp solid
      cases ws with
      | nil => exact Chars.splitWhere_alone hw
      | cons v ws =>
        have text : Chars.joinWith [' '] ((w :: v :: ws).map String.toList)
            = w.toList ++ ' ' :: Chars.joinWith [' '] ((v :: ws).map String.toList) := by
          simp [Chars.joinWith]
        rw [text, Chars.splitWhere_front hw (by decide), ih solid (List.cons_ne_nil _ _)]
        rfl
  by_cases empty : ws = []
  · subst empty
    rfl
  rw [Text.words, Text.joinWith, String.toList_ofList, Chars.words, Chars.fields,
    show " ".toList = [' '] from rfl, pieces ws solid empty, List.filter_eq_self.mpr, List.map_map]
  · exact List.map_id'' (fun _ => String.ofList_toList) _
  · rw [List.forall_mem_map]
    exact fun w hw => by simpa using filled w hw

theorem solid_joinWith {sep : String} {ps : List String} (hs : Solid sep) (h : ∀ p ∈ ps, Solid p) :
    Solid (Text.joinWith sep ps) := by
  refine solid_ofList.mpr fun c hc => ?_
  rcases Chars.mem_joinWith hc with hc | ⟨cs, hcs, hc⟩
  · exact hs c hc
  · obtain ⟨p, hp, rfl⟩ := List.mem_map.mp hcs
    exact h p hp c hc

end
end Handoff
