import Handoff.Text.Chars

/-!
# ASCII characters by their codes

Classes of characters are comparisons of codes, so what one class says of another is arithmetic.

* `isAsciiAlnum_iff`, …    the codes of the classes;
* `toNat_toLower`          lower case moves the codes of the upper-case letters;
* `toNat_toUpper`          upper case moves them back;
* `isBlank_of_alnum`, …    letters and digits are no separators;
* `toString_inj`           a number can be read off its digits.
-/

namespace Handoff.Chars

variable {c : Char}

theorem isAsciiLower_iff : isAsciiLower c = true ↔ 97 ≤ c.toNat ∧ c.toNat ≤ 122 := by
  simp only [isAsciiLower, Bool.and_eq_true, decide_eq_true_eq]
  exact Iff.rfl

theorem isAsciiUpper_iff : isAsciiUpper c = true ↔ 65 ≤ c.toNat ∧ c.toNat ≤ 90 := by
  simp only [isAsciiUpper, Bool.and_eq_true, decide_eq_true_eq]
  exact Iff.rfl

theorem isAsciiDigit_iff : isAsciiDigit c = true ↔ 48 ≤ c.toNat ∧ c.toNat ≤ 57 := by
  simp only [isAsciiDigit, Bool.and_eq_true, decide_eq_true_eq]
  exact Iff.rfl

theorem isAsciiAlpha_iff :
    isAsciiAlpha c = true ↔ isAsciiLower c = true ∨ isAsciiUpper c = true := by
  rw [isAsciiAlpha, Bool.or_eq_true]
  exact Iff.rfl

theorem isAsciiAlnum_iff :
    isAsciiAlnum c = true ↔ isAsciiAlpha c = true ∨ isAsciiDigit c = true := by
  rw [isAsciiAlnum, Bool.or_eq_true]

theorem isAsciiAlnum_of_lower (h : isAsciiLower c = true) : isAsciiAlnum c = true :=
  isAsciiAlnum_iff.mpr (.inl (isAsciiAlpha_iff.mpr (.inl h)))

theorem isAsciiAlnum_of_upper (h : isAsciiUpper c = true) : isAsciiAlnum c = true :=
  isAsciiAlnum_iff.mpr (.inl (isAsciiAlpha_iff.mpr (.inr h)))

theorem isAsciiAlnum_of_digit (h : isAsciiDigit c = true) : isAsciiAlnum c = true :=
  isAsciiAlnum_iff.mpr (.inr h)

theorem toNat_lt_of_alnum (h : isAsciiAlnum c = true) : c.toNat < 0x80 := by
  rw [isAsciiAlnum_iff, isAsciiAlpha_iff, isAsciiLower_iff, isAsciiUpper_iff, isAsciiDigit_iff] at h
  omega

theorem isBlank_of_alnum (h : isAsciiAlnum c = true) : isBlank c = false := by
  rw [isAsciiAlnum_iff, isAsciiAlpha_iff, isAsciiLower_iff, isAsciiUpper_iff, isAsciiDigit_iff] at h
  simp only [isBlank, Bool.or_eq_false_iff, Bool.and_eq_false_iff, decide_eq_false_iff_not,
    beq_eq_false_iff_ne]
  omega

theorem ne_of_alnum {d : Char} (h : isAsciiAlnum c = true) (hd : isAsciiAlnum d = false) :
    c ≠ d := by
  rintro rfl
  rw [h] at hd
  cases hd

/-! ## lower case -/

theorem toNat_toLower (h : isAsciiUpper c = true) : c.toLower.toNat = c.toNat + 32 := by
  have codes := isAsciiUpper_iff.mp h
  have upper : c.val ≥ 'A'.val ∧ c.val ≤ 'Z'.val := codes
  unfold Char.toLower
  rw [dif_pos upper]
  show (c.val + ('a'.val - 'A'.val)).toNat = c.val.toNat + 32
  have small : c.val.toNat ≤ 90 := codes.2
  have : ('a'.val - 'A'.val : UInt32).toNat = 32 := by decide
  rw [UInt32.toNat_add, this]
  omega

theorem toLower_of_not_upper (h : isAsciiUpper c = false) : c.toLower = c := by
  unfold Char.toLower
  refine dif_neg fun upper => ?_
  have : isAsciiUpper c = true := isAsciiUpper_iff.mpr upper
  rw [h] at this
  cases this

theorem isAsciiUpper_of_digit (h : isAsciiDigit c = true) : isAsciiUpper c = false := by
  rw [← Bool.not_eq_true, isAsciiUpper_iff]
  rw [isAsciiDigit_iff] at h
  omega

theorem toLower_of_digit (h : isAsciiDigit c = true) : c.toLower = c :=
  toLower_of_not_upper (isAsciiUpper_of_digit h)

theorem toLower_of_lower (h : isAsciiLower c = true) : c.toLower = c := by
  refine toLower_of_not_upper ?_
  rw [← Bool.not_eq_true, isAsciiUpper_iff]
  rw [isAsciiLower_iff] at h
  omega

theorem isAsciiLower_toLower (h : isAsciiAlpha c = true) : isAsciiLower c.toLower = true := by
  rcases isAsciiAlpha_iff.mp h with lower | upper
  · rwa [toLower_of_lower lower]
  · rw [isAsciiLower_iff, toNat_toLower upper]
    rw [isAsciiUpper_iff] at upper
    omega

/-- in lower case a letter is a lower-case letter, and a digit is itself -/
theorem toLower_of_alnum (h : isAsciiAlnum c = true) :
    isAsciiLower c.toLower = true ∨ isAsciiDigit c = true ∧ c.toLower = c := by
  rcases isAsciiAlnum_iff.mp h with letter | digit
  · exact .inl (isAsciiLower_toLower letter)
  · exact .inr ⟨digit, toLower_of_digit digit⟩

theorem not_digit_of_lower (h : isAsciiLower c = true) : isAsciiDigit c = false := by
  rw [← Bool.not_eq_true, isAsciiDigit_iff]
  rw [isAsciiLower_iff] at h
  omega

/-! ## upper case -/

theorem toNat_toUpper (h : isAsciiLower c = true) : c.toUpper.toNat + 32 = c.toNat := by
  have codes := isAsciiLower_iff.mp h
  have lower : 'a'.val ≤ c.val ∧ c.val ≤ 'z'.val := codes
  unfold Char.toUpper
  rw [dif_pos lower]
  show (c.val + ('A'.val - 'a'.val)).toNat + 32 = c.val.toNat
  have small : 97 ≤ c.val.toNat ∧ c.val.toNat ≤ 122 := codes
  have : ('A'.val - 'a'.val : UInt32).toNat = 4294967264 := by decide
  rw [UInt32.toNat_add, this]
  omega

theorem toUpper_of_not_lower (h : isAsciiLower c = false) : c.toUpper = c := by
  unfold Char.toUpper
  refine dif_neg fun lower => ?_
  have : isAsciiLower c = true := isAsciiLower_iff.mpr lower
  rw [h] at this
  cases this

theorem isAsciiUpper_toUpper (h : isAsciiLower c = true) : isAsciiUpper c.toUpper = true := by
  have codes := isAsciiLower_iff.mp h
  have moved := toNat_toUpper h
  exact isAsciiUpper_iff.mpr (by omega)

/-- upper case makes letters only -/
theorem toUpper_ne {d : Char} (hd : isAsciiUpper d = false) (h : c ≠ d) : c.toUpper ≠ d := by
  cases lower : isAsciiLower c with
  | true =>
    rintro rfl
    rw [isAsciiUpper_toUpper lower] at hd
    cases hd
  | false =>
    rw [toUpper_of_not_lower lower]
    exact h

/-- in upper case a letter is an upper-case letter, and a digit is itself -/
theorem toUpper_of_alnum (h : isAsciiAlnum c = true) :
    isAsciiUpper c.toUpper = true ∨ isAsciiDigit c = true ∧ c.toUpper = c := by
  cases lower : isAsciiLower c with
  | true => exact .inl (isAsciiUpper_toUpper lower)
  | false =>
    rw [toUpper_of_not_lower lower]
    rw [isAsciiAlnum_iff, isAsciiAlpha_iff, lower] at h
    rcases h with (h | upper) | digit
    · cases h
    · exact .inl upper
    · exact .inr ⟨digit, rfl⟩

theorem isAsciiAlnum_toUpper (h : isAsciiAlnum c = true) : isAsciiAlnum c.toUpper = true := by
  rcases toUpper_of_alnum h with upper | ⟨digit, same⟩
  · exact isAsciiAlnum_of_upper upper
  · rw [same]
    exact isAsciiAlnum_of_digit digit

theorem isAsciiAlnum_toLower (h : isAsciiAlnum c = true) : isAsciiAlnum c.toLower = true := by
  rcases toLower_of_alnum h with lower | ⟨digit, same⟩
  · exact isAsciiAlnum_of_lower lower
  · rw [same]
    exact isAsciiAlnum_of_digit digit

theorem isAsciiAlnum_of_hex (h : isHexDigit c = true) : isAsciiAlnum c = true := by
  rw [isAsciiAlnum_iff, isAsciiAlpha_iff, isAsciiLower_iff, isAsciiUpper_iff]
  simp only [isHexDigit, Bool.or_eq_true, Bool.and_eq_true, decide_eq_true_eq] at h
  rcases h with (digit | ⟨low, high⟩) | ⟨low, high⟩
  · exact .inr digit
  · exact .inl (.inl ⟨low, Nat.le_trans high (by decide)⟩)
  · exact .inl (.inr ⟨low, Nat.le_trans high (by decide)⟩)

/-! ## numbers -/

theorem isAsciiDigit_of_mem_toString {i : Nat} :
    ∀ d ∈ (toString i).toList, isAsciiDigit d = true := by
  intro d hd
  rw [Nat.toString_eq_ofList_toDigits, String.toList_ofList] at hd
  exact Nat.isDigit_of_mem_toDigits (by decide) (by decide) hd

theorem toString_inj {i j : Nat} (h : (toString i).toList = (toString j).toList) : i = j := by
  have h := congrArg (fun ds => Nat.ofDigitChars 10 ds 0) h
  simpa [Nat.toString_eq_ofList_toDigits] using h

end Handoff.Chars
