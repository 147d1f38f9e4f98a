import Handoff.Text.Chars

/-!
# Tables of characters

A table is written as lines of text, so that long tables stay short: entries stand between blanks,
and characters are given by their codes in base sixteen.

* `ranges`   `61-7a 2d`: characters from one to another, or one alone;
* `runs`     `41-5a>61` or `100-12e/2>101`: characters, each or every second one of them, and what
             the first of them becomes;
* `blocks`   `2460>31,32,31+30`: consecutive characters and what each of them becomes.
-/

namespace Handoff.Unicode

/-- a number in base sixteen -/
def hex (cs : List Char) : Nat := cs.foldl (fun n c => 16 * n + Chars.hexValue c) 0

/-- the entries of a table -/
def words (lines : List String) : List (List Char) := lines.flatMap fun l => Chars.words l.toList

/-! ## ranges -/

structure Range where
  first : Nat
  last : Nat
deriving Repr

def Range.contains (r : Range) (n : Nat) : Bool := r.first ≤ n && n ≤ r.last

def Range.ofChars (cs : List Char) : Range :=
  match Chars.cut? '-' cs with
  | some (a, b) => ⟨hex a, hex b⟩
  | none => ⟨hex cs, hex cs⟩

def ranges (lines : List String) : List Range := (words lines).map Range.ofChars

def isIn (table : List Range) (c : Char) : Bool := table.any (Range.contains · c.toNat)

/-! ## runs -/

structure Run where
  range : Range
  step : Nat
  target : Nat
deriving Repr

def Run.ofChars? (cs : List Char) : Option Run :=
  (Chars.cut? '>' cs).map fun (source, target) =>
    match Chars.cut? '/' source with
    | some (range, step) => ⟨.ofChars range, hex step, hex target⟩
    | none => ⟨.ofChars source, 1, hex target⟩

def runs (lines : List String) : List Run := (words lines).filterMap Run.ofChars?

/-- what a character of a run becomes -/
def Run.image? (r : Run) (n : Nat) : Option Char :=
  if r.range.contains n && (n - r.range.first) % r.step = 0 then
    some (Char.ofNat (r.target + (n - r.range.first)))
  else none

def inRuns? (table : List Run) (c : Char) : Option Char := table.findSome? (Run.image? · c.toNat)

/-! ## blocks -/

structure Block where
  first : Nat
  targets : List (List Char)
deriving Repr

def Block.ofChars? (cs : List Char) : Option Block :=
  (Chars.cut? '>' cs).map fun (first, targets) =>
    ⟨hex first, (Chars.splitOn ',' targets).map fun t =>
      (Chars.splitOn '+' t).map fun n => Char.ofNat (hex n)⟩

def blocks (lines : List String) : List Block := (words lines).filterMap Block.ofChars?

/-- what a character of a block becomes -/
def Block.image? (b : Block) (n : Nat) : Option (List Char) :=
  if b.first ≤ n then b.targets[n - b.first]? else none

def inBlocks? (table : List Block) (c : Char) : Option (List Char) :=
  table.findSome? (Block.image? · c.toNat)

end Handoff.Unicode
