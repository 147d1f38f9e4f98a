import Handoff.Proofs.Text.Ascii
import Handoff.Text.Bytes
import Mathlib.Data.List.Basic

/-!
# Texts as bytes, and back

What is written as bytes is read as the text that it was: the first byte of a character says how many
more belong to it and between which bounds the next one lies, and these are the bounds between which
it is written.

* `utf8_eq_flatMap`     the bytes of a text are those of its characters;
* `charBytes_cases`     a character has up to four of them;
* `charsAfter_charBytes`   they are read as that character, whatever follows;
* `ofUtf8_utf8`         the text of the bytes of a text;
* `percentDecodeFrom_percentByte`   a byte that is written with a percent sign.
-/

namespace Handoff.Bytes

/-! ## the bytes of a text -/

theorem toList_loop (bs : ByteArray) (i : Nat) (read : List UInt8) :
    ByteArray.toList.loop bs i read = read.reverse ++ bs.data.toList.drop i := by
  fun_induction ByteArray.toList.loop bs i read with
  | case1 i read more ih =>
    have there : i < bs.data.toList.length := by simpa using more
    have next : bs.get! i = bs.data.toList[i] := by
      rw [ByteArray.get!, Array.getElem_toList]
      exact getElem!_pos bs.data i more
    rw [ih, List.drop_eq_getElem_cons there, next, List.reverse_cons, List.append_assoc]
    rfl
  | case2 i read no =>
    have behind : bs.data.toList.length ≤ i := by simpa using no
    rw [List.drop_eq_nil_of_le behind, List.append_nil]

/-- the bytes of a character -/
def charBytes (c : Char) : List Nat := (String.utf8EncodeChar c).map UInt8.toNat

theorem utf8_eq_flatMap (s : String) : utf8 s = s.toList.flatMap charBytes := by
  have bytes : s.toUTF8.toList = s.toList.flatMap String.utf8EncodeChar := by
    have chars : s.toUTF8 = (s.toList.flatMap String.utf8EncodeChar).toByteArray := by
      rw [String.toUTF8_eq_toByteArray, ← String.ofList_toList (s := s), String.toByteArray_ofList,
        String.ofList_toList]
      rfl
    rw [chars, ByteArray.toList, toList_loop, List.data_toByteArray]
    rfl
  rw [utf8, bytes, List.map_flatMap]
  rfl

theorem utf8_append (a b : String) : utf8 (a ++ b) = utf8 a ++ utf8 b := by
  rw [utf8_eq_flatMap, String.toList_append, List.flatMap_append, ← utf8_eq_flatMap,
    ← utf8_eq_flatMap]

/-- a character takes as many bytes as its code needs, and its code is no surrogate -/
theorem charBytes_cases (c : Char) : (c.toNat < 0xD800 ∨ 0xDFFF < c.toNat) ∧ c.toNat < 0x110000 ∧
    charBytes c =
      if c.toNat < 0x80 then [c.toNat]
      else if c.toNat < 0x800 then [0xC0 + c.toNat / 64, 0x80 + c.toNat % 64]
      else if c.toNat < 0x10000 then
        [0xE0 + c.toNat / 4096, 0x80 + c.toNat / 64 % 64, 0x80 + c.toNat % 64]
      else [0xF0 + c.toNat / 262144, 0x80 + c.toNat / 4096 % 64, 0x80 + c.toNat / 64 % 64,
        0x80 + c.toNat % 64] := by
  have valid : c.toNat < 0xD800 ∨ 0xDFFF < c.toNat ∧ c.toNat < 0x110000 := c.valid
  refine ⟨by omega, by omega, ?_⟩
  have byte {n b : Nat} (h : n < 256) (same : n = b) : (UInt8.ofNat n).toNat = b :=
    (Nat.mod_eq_of_lt h).trans same
  rw [charBytes, String.utf8EncodeChar.eq_1, show c.val.toNat = c.toNat from rfl]
  by_cases one : c.toNat < 0x80
  · rw [if_pos one, if_pos (Nat.le_of_lt_succ one), List.map_singleton, byte (by omega) rfl]
  by_cases two : c.toNat < 0x800
  · rw [if_neg one, if_pos two, if_neg (mt Nat.lt_succ_of_le one), if_pos (Nat.le_of_lt_succ two)]
    simp only [List.map_cons, List.map_nil, List.cons.injEq, and_true]
    exact ⟨byte (by omega) (by omega), byte (by omega) (by omega)⟩
  by_cases three : c.toNat < 0x10000
  · rw [if_neg one, if_neg two, if_pos three, if_neg (mt Nat.lt_succ_of_le one),
      if_neg (mt Nat.lt_succ_of_le two), if_pos (Nat.le_of_lt_succ three)]
    simp only [List.map_cons, List.map_nil, List.cons.injEq, and_true]
    exact ⟨byte (by omega) (by omega), byte (by omega) (by omega), byte (by omega) (by omega)⟩
  · rw [if_neg one, if_neg two, if_neg three, if_neg (mt Nat.lt_succ_of_le one),
      if_neg (mt Nat.lt_succ_of_le two), if_neg (mt Nat.lt_succ_of_le three)]
    simp only [List.map_cons, List.map_nil, List.cons.injEq, and_true]
    exact ⟨byte (by omega) (by omega), byte (by omega) (by omega), byte (by omega) (by omega),
      byte (by omega) (by omega)⟩

/-! ## reading -/

theorem start_two {b : Nat} (h : 0xC2 ≤ b) (h' : b < 0xE0) :
    start b = .inr ⟨1, 0x80, 0xBF, b % 32⟩ := by
  rw [start, if_neg (by omega), if_neg (by omega), if_pos h']

theorem start_three {b : Nat} (h : 0xE0 ≤ b) (h' : b < 0xF0) : start b = .inr ⟨2,
    if b = 0xE0 then 0xA0 else 0x80, if b = 0xED then 0x9F else 0xBF, b % 16⟩ := by
  rw [start, if_neg (by omega), if_neg (by omega), if_neg (by omega)]
  by_cases first : b = 0xE0
  · subst first
    rfl
  by_cases surrogate : b = 0xED
  · subst surrogate
    rfl
  · rw [if_neg first, if_neg surrogate, if_pos h', if_neg first, if_neg surrogate]

theorem start_four {b : Nat} (h : 0xF0 ≤ b) (h' : b ≤ 0xF4) : start b = .inr ⟨3,
    if b = 0xF0 then 0x90 else 0x80, if b = 0xF4 then 0x8F else 0xBF, b % 8⟩ := by
  rw [start, if_neg (by omega), if_neg (by omega), if_neg (by omega), if_neg (by omega),
    if_neg (by omega), if_neg (by omega)]
  by_cases first : b = 0xF0
  · subst first
    rfl
  by_cases last : b = 0xF4
  · subst last
    rfl
  · rw [if_neg first, if_pos (by omega), if_neg first, if_neg last]

/-- a byte between the bounds is read, and the character is finished with the last one -/
theorem charsAfter_some {missing low high bits b : Nat} (bs : List Nat) (h : low ≤ b) (h' : b ≤ high) :
    charsAfter (some ⟨missing, low, high, bits⟩) (b :: bs)
      = if missing ≤ 1 then Char.ofNat (bits * 64 + b % 64) :: charsAfter none bs
        else charsAfter (some ⟨missing - 1, 0x80, 0xBF, bits * 64 + b % 64⟩) bs := by
  rw [charsAfter, decide_eq_true h, decide_eq_true h']
  rfl

/-- what is written for a character is read as that character -/
theorem charsAfter_charBytes (c : Char) (bs : List Nat) :
    charsAfter none (charBytes c ++ bs) = c :: charsAfter none bs := by
  obtain ⟨scalar, small, bytes⟩ := charBytes_cases c
  have code {bits : Nat} (h : bits = c.toNat) :
      Char.ofNat bits :: charsAfter none bs = c :: charsAfter none bs := by
    rw [h, Char.ofNat_toNat]
  rw [bytes]
  split
  · next one =>
    have first : start c.toNat = .inl (Char.ofNat c.toNat) := if_pos one
    rw [List.singleton_append, charsAfter, resume, first]
    exact code rfl
  split
  · next two =>
    rw [List.cons_append, List.singleton_append, charsAfter, resume,
      start_two (by omega) (by omega)]
    dsimp only
    rw [charsAfter_some bs (by omega) (by omega), if_pos (by decide)]
    exact code (by omega)
  split
  · next three =>
    rw [List.cons_append, List.cons_append, List.singleton_append, charsAfter, resume,
      start_three (by omega) (by omega)]
    dsimp only
    rw [charsAfter_some _ (by split <;> omega) (by split <;> omega), if_neg (by decide),
      charsAfter_some bs (by omega) (by omega), if_pos (by decide)]
    exact code (by omega)
  · rw [List.cons_append, List.cons_append, List.cons_append, List.singleton_append, charsAfter,
      resume, start_four (by omega) (by omega)]
    dsimp only
    rw [charsAfter_some _ (by split <;> omega) (by split <;> omega), if_neg (by decide),
      charsAfter_some _ (by omega) (by omega), if_neg (by decide),
      charsAfter_some bs (by omega) (by omega), if_pos (by decide)]
    exact code (by omega)

/-- **A text is read back from its bytes.** -/
theorem ofUtf8_utf8 (s : String) : ofUtf8 (utf8 s) = s := by
  have chars (cs : List Char) : charsOf (cs.flatMap charBytes) = cs := by
    induction cs with
    | nil => rfl
    | cons c cs ih => rw [charsOf, List.flatMap_cons, charsAfter_charBytes, ← charsOf, ih]
  rw [ofUtf8, utf8_eq_flatMap, chars, String.ofList_toList]

/-! ## percent signs -/

theorem charBytes_ascii {c : Char} (h : c.toNat < 0x80) : charBytes c = [c.toNat] :=
  (charBytes_cases c).2.2.trans (if_pos h)

/-- the digits that bytes are written with are read as their values -/
theorem upperHex_spec : ∀ n < 16,
    Chars.isAsciiAlnum (upperHex n) = true ∧ hexValue? (upperHex n).toNat = some n := by
  decide

theorem percentDecodeFrom_other {b : Nat} (other : b ≠ 0x25) (bs : List Nat) :
    percentDecodeFrom 0 (b :: bs) = b :: percentDecodeFrom 0 bs := by
  have none : percentByte? (b :: bs) = none := by
    unfold percentByte?
    split
    · next e => exact absurd (List.cons.inj e).1 other
    · rfl
  rw [percentDecodeFrom, none]

/-- a byte that is written with a percent sign is read as that byte -/
theorem percentDecodeFrom_percentByte {b : Nat} (h : b < 256) (bs : List Nat) :
    percentDecodeFrom 0 ((percentByte b).flatMap charBytes ++ bs)
      = b :: percentDecodeFrom 0 bs := by
  obtain ⟨first, high⟩ := upperHex_spec (b / 16) (by omega)
  obtain ⟨second, low⟩ := upperHex_spec (b % 16) (by omega)
  have written : (percentByte b).flatMap charBytes
      = [0x25, (upperHex (b / 16)).toNat, (upperHex (b % 16)).toNat] := by
    rw [percentByte, List.flatMap_cons, List.flatMap_cons, List.flatMap_singleton,
      charBytes_ascii (Chars.toNat_lt_of_alnum first), charBytes_ascii (Chars.toNat_lt_of_alnum second)]
    rfl
  have value : 16 * (b / 16) + b % 16 = b := Nat.div_add_mod b 16
  rw [written, List.cons_append, List.cons_append, List.singleton_append, percentDecodeFrom,
    percentByte?, high, low]
  dsimp only [Option.bind_some, Option.map_some]
  rw [value]
  rfl

end Handoff.Bytes
