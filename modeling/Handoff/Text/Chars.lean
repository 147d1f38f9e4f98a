/-!
# Cutting and joining texts

Texts are taken apart as lists of characters, where each operation is a short recursion with
equations to reason by; `Handoff.Text` has the same operations on strings.

* `isBlank`, `trim`, `words`          white space in the sense of Unicode;
* `splitWhere`, `joinWith`            pieces between separators, and back;
* `cut?`, `cutLast?`                  the two sides of the first and of the last separator;
* `dropPrefix?`, `dropSuffix?`        what is left when a text starts or ends with another;
* `replaceAll`                        every copy of a piece, from left to right.
-/

namespace Handoff.Chars

/-- the characters with the Unicode property White_Space -/
def isBlank (c : Char) : Bool :=
  let n := c.toNat
  (9 ≤ n && n ≤ 13) || n == 32 || n == 0x85 || n == 0xA0 || n == 0x1680 ||
    (0x2000 ≤ n && n ≤ 0x200A) || n == 0x2028 || n == 0x2029 || n == 0x202F || n == 0x205F ||
    n == 0x3000

def isAsciiAlpha (c : Char) : Bool := ('a' ≤ c && c ≤ 'z') || ('A' ≤ c && c ≤ 'Z')

def isAsciiUpper (c : Char) : Bool := 'A' ≤ c && c ≤ 'Z'

def isAsciiLower (c : Char) : Bool := 'a' ≤ c && c ≤ 'z'

def isAsciiDigit (c : Char) : Bool := '0' ≤ c && c ≤ '9'

def isAsciiAlnum (c : Char) : Bool := isAsciiAlpha c || isAsciiDigit c

def isHexDigit (c : Char) : Bool :=
  isAsciiDigit c || ('a' ≤ c && c ≤ 'f') || ('A' ≤ c && c ≤ 'F')

def hexValue (c : Char) : Nat :=
  if isAsciiDigit c then c.toNat - 48
  else if isAsciiLower c then c.toNat - 87 else c.toNat - 55

/-! ## ends -/

def trimStartBy (p : Char → Bool) (cs : List Char) : List Char := cs.dropWhile p

def trimEndBy (p : Char → Bool) (cs : List Char) : List Char := (cs.reverse.dropWhile p).reverse

def trimBy (p : Char → Bool) (cs : List Char) : List Char := trimEndBy p (trimStartBy p cs)

def trim (cs : List Char) : List Char := trimBy isBlank cs

def dropPrefix? : (piece cs : List Char) → Option (List Char)
  | [], cs => some cs
  | _ :: _, [] => none
  | p :: ps, c :: cs => if p = c then dropPrefix? ps cs else none

def dropSuffix? (piece cs : List Char) : Option (List Char) :=
  (dropPrefix? piece.reverse cs.reverse).map List.reverse

def startsWith (piece cs : List Char) : Bool := (dropPrefix? piece cs).isSome

def endsWith (piece cs : List Char) : Bool := (dropSuffix? piece cs).isSome

theorem dropPrefix?_eq_some {piece cs rest : List Char} :
    dropPrefix? piece cs = some rest ↔ cs = piece ++ rest := by
  induction piece generalizing cs with
  | nil => simp [dropPrefix?, eq_comm]
  | cons p ps ih =>
    cases cs with
    | nil => simp [dropPrefix?]
    | cons c cs =>
      by_cases h : p = c
      · simp [dropPrefix?, h, ih]
      · simp [dropPrefix?, h, Ne.symm h]

theorem dropSuffix?_eq_some {piece cs rest : List Char} :
    dropSuffix? piece cs = some rest ↔ cs = rest ++ piece := by
  unfold dropSuffix?
  rw [Option.map_eq_some_iff]
  constructor
  · rintro ⟨r, hr, rfl⟩
    have := congrArg List.reverse (dropPrefix?_eq_some.mp hr)
    simpa using this
  · rintro rfl
    exact ⟨rest.reverse, dropPrefix?_eq_some.mpr (by simp), by simp⟩

theorem length_lt_of_dropSuffix? {piece cs rest : List Char}
    (h : dropSuffix? piece cs = some rest) (hp : ¬ piece.isEmpty) : rest.length < cs.length := by
  have := List.length_pos_iff.mpr (fun e => hp (List.isEmpty_iff.mpr e))
  rw [dropSuffix?_eq_some.mp h, List.length_append]
  omega

/-- drops copies of a piece from the end, as many as there are -/
def dropSuffixes (piece cs : List Char) : List Char :=
  match h : dropSuffix? piece cs with
  | some rest =>
    if hp : piece.isEmpty then cs
    else
      have := length_lt_of_dropSuffix? h hp
      dropSuffixes piece rest
  | none => cs
termination_by cs.length

/-! ## pieces -/

/-- the pieces between the characters that satisfy `p`; there is always one more than these -/
def splitWhere (p : Char → Bool) : List Char → List (List Char)
  | [] => [[]]
  | c :: cs =>
    if p c then [] :: splitWhere p cs
    else match splitWhere p cs with
      | [] => [[c]]
      | q :: ps => (c :: q) :: ps

theorem splitWhere_ne_nil (p : Char → Bool) (cs : List Char) : splitWhere p cs ≠ [] := by
  cases cs with
  | nil => simp [splitWhere]
  | cons c cs =>
    unfold splitWhere
    split
    · simp
    · split <;> simp

def splitOn (c : Char) (cs : List Char) : List (List Char) := splitWhere (· == c) cs

/-- the pieces that are not empty -/
def fields (p : Char → Bool) (cs : List Char) : List (List Char) :=
  (splitWhere p cs).filter fun w => !w.isEmpty

def words (cs : List Char) : List (List Char) := fields isBlank cs

def joinWith (sep : List Char) : List (List Char) → List Char
  | [] => []
  | [p] => p
  | p :: q :: ps => p ++ sep ++ joinWith sep (q :: ps)

theorem joinWith_splitOn (c : Char) (cs : List Char) : joinWith [c] (splitOn c cs) = cs := by
  induction cs with
  | nil => rfl
  | cons d cs ih =>
    unfold splitOn at ih ⊢
    unfold splitWhere
    have hne := splitWhere_ne_nil (· == c) cs
    by_cases h : d = c
    · subst h
      simp only [beq_self_eq_true, if_true]
      match hs : splitWhere (· == d) cs, hne with
      | q :: ps, _ =>
        rw [hs] at ih
        simp [joinWith, ih]
    · simp only [beq_eq_false_iff_ne.mpr h, Bool.false_eq_true, if_false]
      match hs : splitWhere (· == c) cs, hne with
      | [q], _ =>
        rw [hs] at ih
        simpa [joinWith] using ih
      | q :: r :: ps, _ =>
        rw [hs] at ih
        simpa [joinWith] using ih

/-- the two sides of the first `c` -/
def cut? (c : Char) : List Char → Option (List Char × List Char)
  | [] => none
  | d :: cs => if d = c then some ([], cs) else (cut? c cs).map fun (a, b) => (d :: a, b)

/-- the two sides of the last `c` -/
def cutLast? (c : Char) (cs : List Char) : Option (List Char × List Char) :=
  (cut? c cs.reverse).map fun (a, b) => (b.reverse, a.reverse)

theorem cut?_eq_some {c : Char} {cs a b : List Char} (h : cut? c cs = some (a, b)) :
    cs = a ++ c :: b ∧ c ∉ a := by
  induction cs generalizing a with
  | nil => simp [cut?] at h
  | cons d cs ih =>
    unfold cut? at h
    by_cases hd : d = c
    · simp only [if_pos hd, Option.some.injEq, Prod.mk.injEq] at h
      obtain ⟨rfl, rfl⟩ := h
      simp [hd]
    · rw [if_neg hd] at h
      obtain ⟨⟨a', b'⟩, h', e⟩ := Option.map_eq_some_iff.mp h
      simp only [Prod.mk.injEq] at e
      obtain ⟨rfl, rfl⟩ := e
      obtain ⟨rfl, hn⟩ := ih h'
      exact ⟨rfl, by simp [Ne.symm hd, hn]⟩

theorem cut?_eq_some_iff {c : Char} {cs a b : List Char} :
    cut? c cs = some (a, b) ↔ cs = a ++ c :: b ∧ c ∉ a := by
  refine ⟨cut?_eq_some, ?_⟩
  rintro ⟨rfl, h⟩
  induction a with
  | nil => exact if_pos rfl
  | cons d a ih =>
    rw [List.mem_cons, not_or] at h
    rw [List.cons_append, cut?, if_neg (Ne.symm h.1), ih h.2]
    rfl

/-- the two sides of the first copy of `piece` -/
def cutAt? (piece : List Char) : List Char → Option (List Char × List Char)
  | [] => if piece.isEmpty then some ([], []) else none
  | c :: cs => match dropPrefix? piece (c :: cs) with
    | some rest => some ([], rest)
    | none => (cutAt? piece cs).map fun (a, b) => (c :: a, b)

def contains (piece cs : List Char) : Bool := (cutAt? piece cs).isSome

/-! ## replacing -/

/-- replaces copies of `piece`, skipping the first `skip` characters -/
def replaceFrom (piece new : List Char) : Nat → List Char → List Char
  | _, [] => []
  | skip + 1, _ :: cs => replaceFrom piece new skip cs
  | 0, c :: cs =>
    if startsWith piece (c :: cs) then new ++ replaceFrom piece new (piece.length - 1) cs
    else c :: replaceFrom piece new 0 cs

/-- every copy of a non-empty `piece`, from left to right, becomes `new` -/
def replaceAll (piece new : List Char) (cs : List Char) : List Char := replaceFrom piece new 0 cs

/-- every `c` becomes `new` -/
def replaceChar (c : Char) (new : List Char) (cs : List Char) : List Char :=
  cs.flatMap fun d => if d = c then new else [d]

@[simp] theorem replaceChar_nil (c : Char) (new : List Char) : replaceChar c new [] = [] := rfl

theorem replaceChar_append (c : Char) (new a b : List Char) :
    replaceChar c new (a ++ b) = replaceChar c new a ++ replaceChar c new b := by
  simp [replaceChar]

/-- a single character as the piece is replaced wherever it stands -/
theorem replaceAll_singleton (c : Char) (new cs : List Char) :
    replaceAll [c] new cs = replaceChar c new cs := by
  unfold replaceAll
  induction cs with
  | nil => rfl
  | cons d cs ih =>
    unfold replaceFrom
    by_cases h : c = d
    · simp [startsWith, dropPrefix?, h, replaceChar] at ih ⊢
      exact ih
    · simp [startsWith, dropPrefix?, h, Ne.symm h, replaceChar] at ih ⊢
      exact ih

end Handoff.Chars
