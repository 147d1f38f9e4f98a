import Handoff.Text.Basic

/-!
# Class lists

A class list is written as one text; blanks separate the classes, but not inside square brackets,
where a value may hold them.  A class is a variant, which ends with a colon, followed by a base.

* `split`         the classes of a text;
* `splitVariant`  variant and base of one class.

Both read brackets by a depth that never falls below zero, so that a stray closing bracket is an
ordinary character.
-/

namespace Handoff.ClassList

/-- the bracket depth behind a character -/
def depthAfter (depth : Nat) (c : Char) : Nat :=
  if c = '[' then depth + 1 else if c = ']' then depth - 1 else depth

/-- puts a character in front of the first piece -/
def consFirst (c : Char) : List (List Char) → List (List Char)
  | [] => [[c]]
  | p :: ps => (c :: p) :: ps

/-- the pieces, empty ones included, between the blanks at depth zero -/
def pieces (depth : Nat) : List Char → List (List Char)
  | [] => [[]]
  | c :: cs =>
    if Chars.isBlank c ∧ depth = 0 then [] :: pieces depth cs
    else consFirst c (pieces (depthAfter depth c) cs)

def splitChars (cs : List Char) : List (List Char) := (pieces 0 cs).filter fun p => !p.isEmpty

def split (s : String) : List String := (splitChars s.toList).map String.ofList

/-- what stands before and after the last colon at depth zero; the colon belongs to the first -/
def cutVariant? (depth : Nat) : List Char → Option (List Char × List Char)
  | [] => none
  | c :: cs =>
    match cutVariant? (depthAfter depth c) cs with
    | some (v, b) => some (c :: v, b)
    | none => if c = ':' ∧ depth = 0 then some ([c], cs) else none

def splitVariantChars (cs : List Char) : List Char × List Char :=
  (cutVariant? 0 cs).getD ([], cs)

def splitVariant (cls : String) : String × String := Text.pair (splitVariantChars cls.toList)

def variantOf (cls : String) : String := (splitVariant cls).1

def baseOf (cls : String) : String := (splitVariant cls).2

theorem cutVariant?_append {depth : Nat} {cs v b : List Char}
    (h : cutVariant? depth cs = some (v, b)) : v ++ b = cs := by
  induction cs generalizing depth v with
  | nil => simp [cutVariant?] at h
  | cons c cs ih =>
    unfold cutVariant? at h
    split at h
    · next v' b' hr =>
      simp only [Option.some.injEq, Prod.mk.injEq] at h
      obtain ⟨rfl, rfl⟩ := h
      rw [List.cons_append, ih hr]
    · split at h
      · simp only [Option.some.injEq, Prod.mk.injEq] at h
        obtain ⟨rfl, rfl⟩ := h
        rfl
      · simp at h

/-- nothing is lost between variant and base -/
theorem splitVariantChars_append (cs : List Char) :
    (splitVariantChars cs).1 ++ (splitVariantChars cs).2 = cs := by
  unfold splitVariantChars
  cases h : cutVariant? 0 cs with
  | none => rfl
  | some p => exact cutVariant?_append (v := p.1) (b := p.2) h

end Handoff.ClassList
