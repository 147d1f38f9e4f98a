import Handoff.Text.Basic

/-!
# Texts as bytes

* `utf8`           the bytes of a text;
* `ofUtf8`         the text that bytes stand for; bytes that belong to no character become the
                   replacement character;
* `percentByte`    a byte as a sign and two digits;
* `percentDecode`  such bytes read back, all others kept.
-/

namespace Handoff.Bytes

/-- the bytes of a text in UTF-8 -/
def utf8 (s : String) : List Nat := s.toUTF8.toList.map UInt8.toNat

def replacement : Char := '\uFFFD'

/-- a character of which the first bytes have been read: how many are missing, between which bounds
the next one lies, and the bits so far -/
structure Unfinished where
  missing : Nat
  low : Nat
  high : Nat
  bits : Nat
deriving Repr

/-- what a byte begins: a whole character or the first part of one -/
def start (b : Nat) : Char ⊕ Unfinished :=
  if b < 0x80 then .inl (Char.ofNat b)
  else if b < 0xC2 then .inl replacement
  else if b < 0xE0 then .inr ⟨1, 0x80, 0xBF, b % 32⟩
  else if b = 0xE0 then .inr ⟨2, 0xA0, 0xBF, 0⟩
  else if b = 0xED then .inr ⟨2, 0x80, 0x9F, 13⟩
  else if b < 0xF0 then .inr ⟨2, 0x80, 0xBF, b % 16⟩
  else if b = 0xF0 then .inr ⟨3, 0x90, 0xBF, 0⟩
  else if b < 0xF4 then .inr ⟨3, 0x80, 0xBF, b % 8⟩
  else if b = 0xF4 then .inr ⟨3, 0x80, 0x8F, 4⟩
  else .inl replacement

/-- continues with a byte at the beginning of a character -/
def resume (b : Nat) (next : Option Unfinished → List Char) : List Char :=
  match start b with
  | .inl c => c :: next none
  | .inr u => next (some u)

/-- the characters of bytes, after the first bytes of one -/
def charsAfter : Option Unfinished → List Nat → List Char
  | none, [] => []
  | some _, [] => [replacement]
  | none, b :: bs => resume b fun u => charsAfter u bs
  | some u, b :: bs =>
    if u.low ≤ b && b ≤ u.high then
      let bits := u.bits * 64 + b % 64
      if u.missing ≤ 1 then Char.ofNat bits :: charsAfter none bs
      else charsAfter (some ⟨u.missing - 1, 0x80, 0xBF, bits⟩) bs
    else replacement :: resume b fun u => charsAfter u bs

def charsOf (bs : List Nat) : List Char := charsAfter none bs

def ofUtf8 (bs : List Nat) : String := String.ofList (charsOf bs)

/-! ## percent signs -/

def upperHex (n : Nat) : Char := ((Nat.toDigits 16 n).headD '0').toUpper

def percentByte (b : Nat) : List Char := ['%', upperHex (b / 16), upperHex (b % 16)]

/-- the value of a byte that is a hexadecimal digit -/
def hexValue? (b : Nat) : Option Nat :=
  if b < 0x80 && Chars.isHexDigit (Char.ofNat b) then some (Chars.hexValue (Char.ofNat b)) else none

/-- the byte that is written at the beginning as a percent sign and two digits -/
def percentByte? : List Nat → Option Nat
  | 0x25 :: h :: l :: _ => (hexValue? h).bind fun x => (hexValue? l).map fun y => 16 * x + y
  | _ => none

/-- reads bytes back, skipping the first `skip` -/
def percentDecodeFrom : Nat → List Nat → List Nat
  | _, [] => []
  | skip + 1, _ :: bs => percentDecodeFrom skip bs
  | 0, b :: bs => match percentByte? (b :: bs) with
    | some v => v :: percentDecodeFrom 2 bs
    | none => b :: percentDecodeFrom 0 bs

/-- a percent sign without two digits after it stands for itself -/
def percentDecode (bs : List Nat) : List Nat := percentDecodeFrom 0 bs

end Handoff.Bytes
