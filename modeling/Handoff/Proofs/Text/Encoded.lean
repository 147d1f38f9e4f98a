import Handoff.Proofs.Text.Decoded
import Mathlib.Algebra.Ring.Parity
import Mathlib.Data.List.DropRight

/-!
# Escaped texts, character by character

Contents and strings of scripts are escaped by several passes, each over what the ones before it
have written.  Every pass leaves the work of the others alone, so all of them together come to one
pass that writes a piece for each character.  What a text can hold, and what a reader makes of it,
is then a question about the pieces.

* `flatMap_split`       where a character stands in a text that is written in pieces;
* `encoded`             what is written in a content for a character;
* `Bracketless`         no braces, and no angle brackets but those of breaks;
* `content_encodes`     a content is encoded character by character, and can be decoded;
* `literal?`            the text of a string, read without leniency;
* `backslashes`         the backslashes that a text ends in;
* `script_encodes`      a string has no line ends, its quotes are escaped, and it can be decoded.
-/

namespace Handoff

/-- a character of a text that is written in pieces stands in one of them -/
theorem Chars.flatMap_split {f : Char → List Char} {c : Char} {back : List Char} (cs : List Char) :
    ∀ {front : List Char}, cs.flatMap f = front ++ c :: back →
      ∃ before d after p q, cs = before ++ d :: after ∧ f d = p ++ c :: q ∧
        front = before.flatMap f ++ p ∧ back = q ++ after.flatMap f := by
  induction cs with
  | nil => intro front h; simp at h
  | cons d cs ih =>
    intro front h
    rw [List.flatMap_cons] at h
    rcases List.append_eq_append_iff.mp h with ⟨rest, rfl, later⟩ | ⟨rest, first, later⟩
    · -- the piece of the first character ends in front of it
      obtain ⟨before, e, after, p, q, rfl, piece, rfl, rfl⟩ := ih later
      exact ⟨d :: before, e, after, p, q, rfl, piece, by simp, rfl⟩
    · cases rest with
      | nil =>
        have behind : cs.flatMap f = [] ++ c :: back := later.symm
        obtain ⟨before, e, after, p, q, rfl, piece, empty, rfl⟩ := ih behind
        refine ⟨d :: before, e, after, p, q, rfl, piece, ?_, rfl⟩
        rw [List.flatMap_cons, List.append_assoc, ← empty, first, List.append_nil, List.append_nil]
      | cons x rest =>
        obtain ⟨rfl, rfl⟩ := List.cons.inj later
        exact ⟨[], d, cs, front, rest, rfl, first, rfl, rfl⟩

namespace Escape
open Reference

/-! ## contents -/

/-- what is written in a content for a character -/
def encoded (c : Char) : List Char :=
  if c = '&' then "&amp;".toList
  else if c = '<' then "&lt;".toList
  else if c = '>' then "&gt;".toList
  else if c = '\x7b' then "&#123;".toList
  else if c = '\x7d' then "&#125;".toList
  else if c = '\n' then "<br/>".toList
  else [c]

/-- the text that a content shows, with a line end for each break -/
def decoded (cs : List Char) : List Char :=
  (read ofContent cs).map fun
    | .char c => c
    | .lineBreak => '\n'

/-- no braces, and no angle brackets but those of breaks -/
structure Bracketless (cs : List Char) : Prop where
  opening : '\x7b' ∉ cs
  closing : '\x7d' ∉ cs
  less : ∀ front back, cs = front ++ '<' :: back → "br/>".toList <+: back
  greater : ∀ front back, cs = front ++ '>' :: back → "<br/".toList <:+ front

/-- a character that stands for itself is none of those that are encoded -/
theorem encoded_cases (c : Char) :
    c = '\n' ∧ encoded c = "<br/>".toList ∨
      c ∈ reserved ∧ (∀ d ∈ encoded c, d ∉ ['<', '>', '\x7b', '\x7d']) ∨
      c ≠ '\n' ∧ c ∉ reserved ∧ encoded c = [c] := by
  by_cases lineEnd : c = '\n'
  · subst lineEnd
    exact .inl ⟨rfl, rfl⟩
  · by_cases special : c ∈ reserved
    · refine .inr (.inl ⟨special, ?_⟩)
      simp only [reserved, List.mem_cons, List.not_mem_nil, or_false] at special
      rcases special with rfl | rfl | rfl | rfl | rfl <;> simp [encoded]
    · refine .inr (.inr ⟨lineEnd, special, ?_⟩)
      simp only [reserved, List.mem_cons, List.not_mem_nil, or_false, not_or] at special
      simp [encoded, special, lineEnd]

theorem contentChar_eq_encoded (c : Char) : contentChar c = encoded c := by
  by_cases special : c = '\n' ∨ c ∈ reserved
  · simp only [reserved, List.mem_cons, List.not_mem_nil, or_false] at special
    rcases special with rfl | rfl | rfl | rfl | rfl | rfl <;> rfl
  · obtain ⟨lineEnd, plain⟩ := not_or.mp special
    rw [contentChar, if_neg lineEnd, markupChars_of_plain plain]
    simp only [reserved, List.mem_cons, List.not_mem_nil, or_false, not_or] at plain
    simp [encoded, plain, lineEnd]

theorem contentChars_eq_encoded (cs : List Char) : contentChars cs = cs.flatMap encoded := by
  rw [contentChars_eq, funext contentChar_eq_encoded]

theorem decoded_contentChars (cs : List Char) : decoded (contentChars cs) = cs := by
  unfold decoded
  rw [read_content, List.map_map]
  refine (List.map_congr_left fun c _ => ?_).trans (List.map_id cs)
  by_cases lineEnd : c = '\n'
  · subst lineEnd
    rfl
  · simp [contentMark, lineEnd]

theorem bracketless_contentChars (cs : List Char) : Bracketless (contentChars cs) := by
  rw [contentChars_eq_encoded]
  have brace {d : Char} (hd : d = '\x7b' ∨ d = '\x7d') : d ∉ cs.flatMap encoded := by
    intro h
    obtain ⟨c, -, hc⟩ := List.mem_flatMap.mp h
    rcases encoded_cases c with ⟨-, e⟩ | ⟨-, kept⟩ | ⟨-, plain, e⟩
    · rw [e] at hc
      rcases hd with rfl | rfl <;> exact absurd hc (by decide)
    · exact kept d hc (by rcases hd with rfl | rfl <;> decide)
    · rw [e, List.mem_singleton] at hc
      exact plain (hc ▸ (by rcases hd with rfl | rfl <;> decide))
  -- an angle bracket stands in the piece of a line end
  have angle {d : Char} (hd : d = '<' ∨ d = '>') {front back : List Char}
      (h : cs.flatMap encoded = front ++ d :: back) : ∃ u v p q, "<br/>".toList = p ++ d :: q ∧
        front = u ++ p ∧ back = q ++ v := by
    obtain ⟨before, c, after, p, q, -, piece, rfl, rfl⟩ := Chars.flatMap_split cs h
    have hc : d ∈ encoded c := by rw [piece]; simp
    rcases encoded_cases c with ⟨-, e⟩ | ⟨-, kept⟩ | ⟨-, plain, e⟩
    · exact ⟨_, _, p, q, e ▸ piece, rfl, rfl⟩
    · exact absurd (by rcases hd with rfl | rfl <;> decide) (kept d hc)
    · rw [e, List.mem_singleton] at hc
      exact absurd (hc ▸ (by rcases hd with rfl | rfl <;> decide)) plain
  refine ⟨brace (.inl rfl), brace (.inr rfl), fun front back h => ?_, fun front back h => ?_⟩
  · obtain ⟨u, v, p, q, tag, -, rfl⟩ := angle (.inl rfl) h
    have tag : [] ++ '<' :: "br/>".toList = p ++ '<' :: q := tag
    obtain ⟨-, -, rfl⟩ := (List.append_cons_inj_of_notMem (by decide) (by decide)).mp tag
    exact List.prefix_append _ v
  · obtain ⟨u, v, p, q, tag, rfl, -⟩ := angle (.inr rfl) h
    have tag : "<br/".toList ++ '>' :: [] = p ++ '>' :: q := tag
    obtain ⟨rfl, -, -⟩ := (List.append_cons_inj_of_notMem (by decide) (by decide)).mp tag
    exact List.suffix_append u _

/-- **A content is its text, encoded character by character.**  The reserved characters become
references, a line end becomes a break, and every other character stays.  So the text can be
decoded, no two texts have one content, and a content has no braces, and no angle brackets but
those of breaks. -/
theorem content_encodes (s : String) :
    content s = Text.onChars (List.flatMap encoded) s ∧
      Text.onChars decoded (content s) = s ∧
      (∀ t, content t = content s → t = s) ∧
      Bracketless (content s).toList := by
  have back (t : String) : Text.onChars decoded (content t) = t := by
    unfold content Text.onChars
    rw [String.toList_ofList, decoded_contentChars, String.ofList_toList]
  refine ⟨?_, back s, fun t same => ?_, ?_⟩
  · unfold content Text.onChars
    rw [contentChars_eq_encoded]
  · rw [← back t, same, back s]
  · rw [content, Text.toList_onChars]
    exact bracketless_contentChars s.toList

/-! ## strings of scripts -/

/-- a character that ends a line of a script -/
def isLineEnd (c : Char) : Bool := c = '\n' || c = '\r' || isSeparator c

/-- the backslashes that a text ends in -/
def backslashes (cs : List Char) : Nat := (cs.rtakeWhile (· = '\\')).length

/-- what the escapes of strings stand for -/
def escape? (c : Char) : Option Char :=
  if c = '\\' ∨ c = '"' then some c else if c = 'n' then some '\n' else none

/-- the text of a double-quoted string of a script; no other escapes are known, and quotes and line
ends have to be escaped -/
def literal? : List Char → Option (List Char)
  | [] => some []
  | ['\\'] => none
  | '\\' :: c :: cs => (escape? c).bind fun d => (literal? cs).map (d :: ·)
  | c :: cs => if c = '"' || isLineEnd c then none else (literal? cs).map (c :: ·)

/-- of the line ends only plain ones are left -/
theorem mem_unified {c : Char} {cs : List Char} (h : c ∈ unified cs) :
    c ≠ '\r' ∧ isSeparator c = false := by
  obtain ⟨returns, rfl | h⟩ := mem_unifyReturns h
  · exact ⟨returns, by decide⟩
  · obtain ⟨d, -, rfl⟩ := List.mem_map.mp h
    refine ⟨returns, ?_⟩
    unfold lineEndOf
    split
    · decide
    · next plain => simpa using plain

/-- how a character of a text with plain line ends is written -/
theorem scriptChar_cases {c : Char} (returns : c ≠ '\r') :
    c = '\n' ∧ scriptChar c = ['\\', 'n'] ∨
      (c = '\\' ∨ c = '"') ∧ scriptChar c = ['\\', c] ∨
      c ≠ '\n' ∧ c ≠ '\\' ∧ c ≠ '"' ∧ scriptChar c = [c] := by
  by_cases lineEnd : c = '\n'
  · subst lineEnd
    exact .inl ⟨rfl, rfl⟩
  · have ends : ¬ (c = '\r' ∨ c = '\n') := by simp [returns, lineEnd]
    by_cases mark : c = '\\' ∨ c = '"'
    · exact .inr (.inl ⟨mark, by rw [scriptChar, if_neg ends, if_pos mark]⟩)
    · obtain ⟨backslash, quote⟩ := not_or.mp mark
      exact .inr (.inr ⟨lineEnd, backslash, quote, by rw [scriptChar, if_neg ends, if_neg mark]⟩)

theorem backslashes_concat (cs : List Char) (c : Char) :
    backslashes (cs ++ [c]) = if c = '\\' then backslashes cs + 1 else 0 := by
  unfold backslashes
  rw [List.rtakeWhile_concat]
  by_cases h : c = '\\' <;> simp [h]

/-- a text that is written character by character ends in whole escapes -/
theorem even_backslashes {cs : List Char} (h : ∀ c ∈ cs, c ≠ '\r') :
    Even (backslashes (cs.flatMap scriptChar)) := by
  induction cs using List.reverseRecOn with
  | nil => exact Even.zero
  | append_singleton cs c ih =>
    have ih := ih fun d hd => h d (List.mem_append_left _ hd)
    rw [List.flatMap_append, List.flatMap_singleton]
    rcases scriptChar_cases (h c (by simp)) with ⟨-, e⟩ | ⟨mark, e⟩ | ⟨-, backslash, -, e⟩
    · rw [e, List.append_cons, backslashes_concat]
      exact Even.zero
    · rw [e, List.append_cons, backslashes_concat, backslashes_concat]
      rcases mark with rfl | rfl
      · exact ih.add (by decide : Even 2)
      · exact Even.zero
    · rw [e, backslashes_concat, if_neg backslash]
      exact Even.zero

theorem literal?_scriptChar {c : Char} (returns : c ≠ '\r') (plain : isSeparator c = false)
    (rest : List Char) : literal? (scriptChar c ++ rest) = (literal? rest).map (c :: ·) := by
  rcases scriptChar_cases returns with ⟨rfl, e⟩ | ⟨mark, e⟩ | ⟨lineEnd, backslash, quote, e⟩
  · rw [e]
    rfl
  · rw [e]
    rcases mark with rfl | rfl <;> rfl
  · have kept : (c = '"' || isLineEnd c) = false := by
      simp [isLineEnd, returns, lineEnd, quote, plain]
    rw [e, List.singleton_append, literal?, kept, if_neg Bool.false_ne_true]
    · exact fun same => absurd same backslash
    · exact fun d ds same => absurd same backslash

theorem literal?_flatMap {cs : List Char} (h : ∀ c ∈ cs, c ≠ '\r' ∧ isSeparator c = false) :
    literal? (cs.flatMap scriptChar) = some cs := by
  induction cs with
  | nil => rfl
  | cons c cs ih =>
    obtain ⟨⟨returns, plain⟩, h⟩ := List.forall_mem_cons.mp h
    rw [List.flatMap_cons, literal?_scriptChar returns plain, ih h]
    rfl

/-- what is written for a character has no line end -/
theorem not_lineEnd_of_mem {c d : Char} (returns : c ≠ '\r') (plain : isSeparator c = false)
    (h : d ∈ scriptChar c) : isLineEnd d = false := by
  rcases scriptChar_cases returns with ⟨-, e⟩ | ⟨mark, e⟩ | ⟨lineEnd, -, -, e⟩
  · rw [e] at h
    rcases List.mem_pair.mp h with rfl | rfl <;> rfl
  · rw [e] at h
    rcases List.mem_pair.mp h with rfl | rfl
    · rfl
    · rcases mark with rfl | rfl <;> rfl
  · rw [e, List.mem_singleton] at h
    subst h
    simp [isLineEnd, returns, lineEnd, plain]

/-- a quote is the second half of its escape -/
theorem escape_of_quote {c : Char} {p q : List Char} (returns : c ≠ '\r')
    (h : scriptChar c = p ++ '"' :: q) : p = ['\\'] := by
  have hc : '"' ∈ scriptChar c := by rw [h]; simp
  rcases scriptChar_cases returns with ⟨-, e⟩ | ⟨rfl | rfl, e⟩ | ⟨-, -, quote, e⟩
  · exact absurd (e ▸ hc) (by decide)
  · exact absurd (e ▸ hc) (by decide)
  · have split : ['\\'] ++ '"' :: [] = p ++ '"' :: q := e.symm.trans h
    exact ((List.append_cons_inj_of_notMem (by decide) (by decide)).mp split).1.symm
  · rw [e, List.mem_singleton] at hc
    exact absurd hc.symm quote

/-- **A string of a script is whole, and is read back but for its line ends.**  It has no line end
of its own; each quote in it is escaped, as it stands behind an odd number of backslashes; it does
not take the quote that ends it, as it ends in an even number of them; and what it stands for is its
text with one kind of line ends. -/
theorem script_encodes (s : String) :
    (∀ c ∈ (script s).toList, isLineEnd c = false) ∧
      (∀ front back, (script s).toList = front ++ '"' :: back → Odd (backslashes front)) ∧
      Even (backslashes (script s).toList) ∧
      literal? (script s).toList = some (unified s.toList) := by
  rw [script, Text.toList_onChars, scriptChars_eq]
  have ends : ∀ c ∈ unified s.toList, c ≠ '\r' ∧ isSeparator c = false := fun c => mem_unified
  refine ⟨fun c hc => ?_, fun front back h => ?_, ?_, literal?_flatMap ends⟩
  · obtain ⟨d, hd, hc⟩ := List.mem_flatMap.mp hc
    exact not_lineEnd_of_mem (ends d hd).1 (ends d hd).2 hc
  · obtain ⟨before, c, after, p, q, text, piece, rfl, -⟩ := Chars.flatMap_split _ h
    rw [text] at ends
    have whole : Even (backslashes (before.flatMap scriptChar)) :=
      even_backslashes fun d hd => (ends d (by simp [hd])).1
    rw [escape_of_quote (ends c (by simp)).1 piece, backslashes_concat, if_pos rfl]
    exact whole.add_one
  · exact even_backslashes fun c hc => (ends c hc).1

end Escape
end Handoff
