import Handoff.Text.Chars

/-!
# Punycode

A label of a domain that is not ASCII is written with ASCII letters and digits: its ASCII characters
first, then the places and codes of the others as differences in a number system whose digits weigh
more or less according to a running bias.

* `encode`     the written form, without the mark that announces it;
* `decode?`    the label that a written form stands for.
-/

namespace Handoff.Punycode

/-- the value below which the digit at a position is the last one -/
def threshold (position bias : Nat) : Nat :=
  if position ≤ bias then 1 else if bias + 26 ≤ position then 26 else position - bias

theorem threshold_pos (position bias : Nat) : 1 ≤ threshold position bias := by
  unfold threshold
  split
  · omega
  · split <;> omega

theorem threshold_le (position bias : Nat) : threshold position bias ≤ 26 := by
  unfold threshold
  split
  · omega
  · split <;> omega

/-- the bias that a large difference leaves behind -/
def shrink (delta : Nat) : Nat :=
  if 455 < delta then 36 + shrink (delta / 35) else 36 * delta / (delta + 38)
termination_by delta

/-- the bias after a difference, when so many characters are there; the first one is damped -/
def adapt (delta count : Nat) (isFirst : Bool) : Nat :=
  let d := if isFirst then delta / 700 else delta / 2
  shrink (d + d / count)

def initialBias : Nat := 72

def firstCode : Nat := 0x80

def digit (d : Nat) : Char := if d < 26 then Char.ofNat (97 + d) else Char.ofNat (22 + d)

def digitValue? (c : Char) : Option Nat :=
  if Chars.isAsciiLower c then some (c.toNat - 97)
  else if Chars.isAsciiUpper c then some (c.toNat - 65)
  else if Chars.isAsciiDigit c then some (c.toNat - 22)
  else none

/-! ## writing -/

/-- the digits of a difference, the least significant one first -/
def digits (bias position delta : Nat) : List Char :=
  let t := threshold position bias
  if delta < t then [digit delta]
  else digit (t + (delta - t) % (36 - t)) :: digits bias (position + 36) ((delta - t) / (36 - t))
termination_by delta
decreasing_by
  have := threshold_pos position bias
  have := Nat.div_le_self (delta - threshold position bias) (36 - threshold position bias)
  omega

structure Encoding where
  written : List Char
  delta : Nat
  bias : Nat
  count : Nat

/-- one character of the label, while those with the code `code` are written -/
def Encoding.step (basic code : Nat) (e : Encoding) (c : Char) : Encoding :=
  if c.toNat < code then { e with delta := e.delta + 1 }
  else if c.toNat = code then
    { written := e.written ++ digits e.bias 36 e.delta
      delta := 0
      bias := adapt e.delta (e.count + 1) (e.count = basic)
      count := e.count + 1 }
  else e

/-- writes the characters whose codes are listed in ascending order, from `next` on -/
def Encoding.run (cs : List Char) (basic : Nat) : Nat → Encoding → List Nat → Encoding
  | _, e, [] => e
  | next, e, code :: codes =>
    let e := { e with delta := e.delta + (code - next) * (e.count + 1) }
    let e := cs.foldl (Encoding.step basic code) e
    run cs basic (code + 1) { e with delta := e.delta + 1 } codes

def isBasic (c : Char) : Bool := c.toNat < firstCode

/-- the codes of the characters that are not ASCII, ascending, each once -/
def codes (cs : List Char) : List Nat :=
  ((cs.filter fun c => !isBasic c).map Char.toNat).mergeSort.eraseDups

def encode (cs : List Char) : List Char :=
  let basic := cs.filter isBasic
  let start := if basic.isEmpty then [] else basic ++ ['-']
  (Encoding.run cs basic.length firstCode ⟨start, 0, initialBias, basic.length⟩ (codes cs)).written

/-! ## reading -/

/-- the characters so far, the code and place of the last one, and the difference that is being
read -/
structure Decoding where
  chars : List Char
  code : Nat := firstCode
  place : Nat := 0
  bias : Nat := initialBias
  delta : Nat := 0
  weight : Nat := 1
  position : Nat := 36

/-- inserts the character that the difference stands for -/
def Decoding.insert? (d : Decoding) : Option Decoding :=
  let count := d.chars.length + 1
  let place := d.place + d.delta
  let code := d.code + place / count
  if code.isValidChar then
    some {
      chars := d.chars.insertIdx (place % count) (Char.ofNat code)
      code
      place := place % count + 1
      bias := adapt d.delta count (d.place = 0) }
  else none

/-- the largest weight of a digit that is read -/
def maxWeight : Nat := 0xFFFFFFFF

def Decoding.run? : Decoding → List Char → Option (List Char)
  | d, [] => if d.position = 36 then some d.chars else none
  | d, c :: cs => do
    let v ← digitValue? c
    let t := threshold d.position d.bias
    let d := { d with delta := d.delta + v * d.weight }
    if v < t then run? (← d.insert?) cs
    else if maxWeight < d.weight * (36 - t) then none
    else run? { d with weight := d.weight * (36 - t), position := d.position + 36 } cs

/-- the ASCII characters stand before the last hyphen, which is left out if there are none -/
def decode? (cs : List Char) : Option (List Char) :=
  match Chars.cutLast? '-' cs with
  | some (basic, rest) =>
    if !basic.isEmpty && basic.all isBasic then Decoding.run? { chars := basic } rest else none
  | none => Decoding.run? { chars := [] } cs

end Handoff.Punycode
