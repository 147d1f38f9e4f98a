import Handoff.Proofs.Text.Members
import Handoff.Text.Escape

/-!
# What a reader makes of escaped texts

A reader of markup puts characters in the place of the references, and takes a tag for a line break;
a reader of a script puts characters in the place of the escapes.  Contents and attributes are read
back as they were, with a break for every line end of a content.  A string of a script is read back
too, but all kinds of line ends have become one.

* `Mark`               a character or a line break;
* `Reference.read`     markup, by a table of what is read in another way than it is written;
* `read_flatMap`       a text is read character by character, if each is written to be read so;
* `read_content`, `read_attribute`   contents and attributes are read back;
* `readScript`, `unified`            strings of scripts, and texts with one kind of line ends;
* `scriptChars_eq`                   a string is written character by character, but for line ends;
* `readScript_scriptChars`           a string is read back, but for its line ends;
* `map_char_unified_iff`             what is shown is the same just if there are none.
-/

namespace Handoff

/-- a character that is not replaced stays -/
theorem Chars.replaceChar_of_ne {c d : Char} (h : d ≠ c) (new : List Char) :
    replaceChar c new [d] = [d] := by
  rw [replaceChar, List.flatMap_singleton, if_neg h]

/-- what is shown of a text -/
inductive Mark where
  | char (c : Char)
  | lineBreak
deriving DecidableEq, Repr

/-- what is written in markup, and what is read there -/
abbrev Reference := List Char × Mark

namespace Reference

/-- the references in contents, and the tag of a break -/
def ofContent : List Reference := [
  ("&amp;".toList, .char '&'), ("&lt;".toList, .char '<'), ("&gt;".toList, .char '>'),
  ("&#123;".toList, .char '\x7b'), ("&#125;".toList, .char '\x7d'), ("<br/>".toList, .lineBreak)]

def ofAttribute : List Reference := [("&amp;".toList, .char '&'), ("&quot;".toList, .char '"')]

variable (table : List Reference)

/-- reads on behind the first `skip` characters, which belong to what was read already -/
def readFrom : Nat → List Char → List Mark
  | _, [] => []
  | skip + 1, _ :: cs => readFrom skip cs
  | 0, c :: cs =>
    match table.find? fun e => Chars.startsWith e.1 (c :: cs) with
    | some e => e.2 :: readFrom (e.1.length - 1) cs
    | none => .char c :: readFrom 0 cs

def read (cs : List Char) : List Mark := readFrom table 0 cs

theorem readFrom_append (a b : List Char) : readFrom table a.length (a ++ b) = read table b := by
  induction a with
  | nil => rfl
  | cons c a ih => exact ih

variable {table}

/-- a reference is read if no other one begins in its place -/
theorem read_reference {c : Char} {piece : List Char} {m : Mark} {cs : List Char}
    (h : (table.find? fun e => Chars.startsWith e.1 (c :: piece ++ cs)) = some (c :: piece, m)) :
    read table (c :: piece ++ cs) = m :: read table cs := by
  show (match table.find? fun e => Chars.startsWith e.1 (c :: (piece ++ cs)) with
    | some e => e.2 :: readFrom table (e.1.length - 1) (piece ++ cs)
    | none => .char c :: readFrom table 0 (piece ++ cs)) = _
  rw [← List.cons_append, h]
  exact congrArg _ (readFrom_append table piece cs)

/-- a character that begins no reference is read as it is -/
theorem read_char {c : Char} (h : ∀ e ∈ table, e.1.head? ≠ some c ∧ e.1 ≠ []) (cs : List Char) :
    read table (c :: cs) = .char c :: read table cs := by
  have none : (table.find? fun e => Chars.startsWith e.1 (c :: cs)) = none := by
    refine List.find?_eq_none.mpr fun e he starts => ?_
    obtain ⟨other, filled⟩ := h e he
    obtain ⟨rest, begins⟩ := Option.isSome_iff_exists.mp starts
    cases piece : e.1 with
    | nil => exact filled piece
    | cons d piece' =>
      rw [piece] at begins other
      exact other (congrArg some (List.cons.inj (Chars.dropPrefix?_eq_some.mp begins)).1.symm)
  rw [read, readFrom, none]
  rfl

/-- a text is read character by character, if each of them is written to be read so -/
theorem read_flatMap {written : Char → List Char} {mark : Char → Mark}
    (h : ∀ c rest, read table (written c ++ rest) = mark c :: read table rest) (cs : List Char) :
    read table (cs.flatMap written) = cs.map mark := by
  induction cs with
  | nil => rfl
  | cons c cs ih => rw [List.flatMap_cons, h, ih, List.map_cons]

end Reference

/-! ## contents -/

namespace Escape
open Reference

/-- how a character of a content is shown -/
def contentMark (c : Char) : Mark := if c = '\n' then .lineBreak else .char c

/-- how a character of a content is written -/
def contentChar (c : Char) : List Char :=
  if c = '\n' then "<br/>".toList else markupChars [c]

theorem markupChars_append (a b : List Char) :
    markupChars (a ++ b) = markupChars a ++ markupChars b := by
  unfold markupChars
  simp only [Chars.replaceChar_append]

theorem markupChars_eq (cs : List Char) : markupChars cs = cs.flatMap fun c => markupChars [c] := by
  induction cs with
  | nil => rfl
  | cons c cs ih => rw [List.flatMap_cons, ← ih, ← markupChars_append]; rfl

/-- breaks for empty lines are no other than breaks for their line ends -/
theorem breakLines_eq : ∀ cs : List Char,
    breakLines cs = Chars.replaceChar '\n' "<br/>".toList cs
  | [] => rfl
  | [c] => by
    unfold breakLines Chars.replaceAll Chars.replaceFrom
    simp [Chars.startsWith, Chars.dropPrefix?, Chars.replaceFrom]
  | c :: d :: cs => by
    have step (e : Char) (es : List Char) : Chars.replaceChar '\n' "<br/>".toList (e :: es)
        = Chars.replaceChar '\n' "<br/>".toList [e]
          ++ Chars.replaceChar '\n' "<br/>".toList es := Chars.replaceChar_append _ _ [e] es
    by_cases both : c = '\n' ∧ d = '\n'
    · obtain ⟨rfl, rfl⟩ := both
      rw [step, step '\n' cs, ← breakLines_eq cs, ← List.append_assoc]
      exact Chars.replaceChar_append '\n' "<br/>".toList "<br/><br/>".toList _
    · have one : Chars.replaceAll ['\n', '\n'] "<br/><br/>".toList (c :: d :: cs)
          = c :: Chars.replaceAll ['\n', '\n'] "<br/><br/>".toList (d :: cs) := by
        have other : Chars.startsWith ['\n', '\n'] (c :: d :: cs) = false := by
          by_cases first : c = '\n'
          · have second : d ≠ '\n' := fun same => both ⟨first, same⟩
            simp [Chars.startsWith, Chars.dropPrefix?, Ne.symm second]
          · simp [Chars.startsWith, Chars.dropPrefix?, Ne.symm first]
        rw [Chars.replaceAll, Chars.replaceFrom, other]
        rfl
      rw [breakLines, one, step, step c (d :: cs), ← breakLines_eq (d :: cs)]
      rfl

/-- the characters that markup has a reference for -/
def reserved : List Char := ['&', '<', '>', '\x7b', '\x7d']

theorem markupChars_of_plain {c : Char} (h : c ∉ reserved) : markupChars [c] = [c] := by
  simp only [reserved, List.mem_cons, List.not_mem_nil, or_false, not_or] at h
  obtain ⟨ampersand, less, greater, opening, closing⟩ := h
  rw [markupChars, Chars.replaceChar_of_ne ampersand, Chars.replaceChar_of_ne less,
    Chars.replaceChar_of_ne greater, Chars.replaceChar_of_ne opening,
    Chars.replaceChar_of_ne closing]

theorem contentChars_eq (cs : List Char) : contentChars cs = cs.flatMap contentChar := by
  have each (c : Char) :
      Chars.replaceChar '\n' "<br/>".toList (markupChars [c]) = contentChar c := by
    by_cases special : c ∈ reserved
    · simp only [reserved, List.mem_cons, List.not_mem_nil, or_false] at special
      rcases special with rfl | rfl | rfl | rfl | rfl <;> rfl
    · rw [markupChars_of_plain special, contentChar]
      split
      · next lineEnd =>
        subst lineEnd
        rfl
      · next other => rw [Chars.replaceChar_of_ne other, markupChars_of_plain special]
  rw [contentChars, breakLines_eq, markupChars_eq]
  induction cs with
  | nil => rfl
  | cons c cs ih =>
    rw [List.flatMap_cons, List.flatMap_cons, Chars.replaceChar_append, ih, each]

/-- **A content is read back**, with a break for each line end. -/
theorem read_content (cs : List Char) : read ofContent (contentChars cs) = cs.map contentMark := by
  rw [contentChars_eq]
  refine read_flatMap (fun c rest => ?_) cs
  by_cases special : c = '\n' ∨ c ∈ reserved
  · simp only [reserved, List.mem_cons, List.not_mem_nil, or_false] at special
    rcases special with rfl | rfl | rfl | rfl | rfl | rfl <;> exact read_reference rfl
  · obtain ⟨lineEnd, plain⟩ := not_or.mp special
    rw [contentChar, contentMark, if_neg lineEnd, if_neg lineEnd, markupChars_of_plain plain]
    simp only [reserved, List.mem_cons, List.not_mem_nil, or_false, not_or] at plain
    refine read_char ?_ rest
    simp [ofContent, Ne.symm plain.1, Ne.symm plain.2.1]

/-! ## attributes -/

theorem attributeChars_append (a b : List Char) :
    attributeChars (a ++ b) = attributeChars a ++ attributeChars b := by
  unfold attributeChars
  simp only [Chars.replaceChar_append]

/-- **An attribute is read back.** -/
theorem read_attribute (cs : List Char) : read ofAttribute (attributeChars cs) = cs.map .char := by
  have each : attributeChars cs = cs.flatMap fun c => attributeChars [c] := by
    induction cs with
    | nil => rfl
    | cons c cs ih => rw [List.flatMap_cons, ← ih, ← attributeChars_append]; rfl
  rw [each]
  refine read_flatMap (fun c rest => ?_) cs
  by_cases special : c = '&' ∨ c = '"'
  · rcases special with rfl | rfl <;> exact read_reference rfl
  · obtain ⟨ampersand, quote⟩ := not_or.mp special
    have kept : attributeChars [c] = [c] := by
      rw [attributeChars, Chars.replaceChar_of_ne ampersand, Chars.replaceChar_of_ne quote]
    rw [kept]
    refine read_char ?_ rest
    simp [ofAttribute, Ne.symm ampersand]

/-! ## strings of scripts -/

/-- what a backslash makes of the character behind it -/
def unescaped (c : Char) : Char :=
  if c = 'n' then '\n' else if c = 'r' then '\r' else if c = 't' then '\t' else c

/-- the characters that a string of a script stands for -/
def readScript : List Char → List Char
  | [] => []
  | ['\\'] => []
  | '\\' :: c :: cs => unescaped c :: readScript cs
  | c :: cs => c :: readScript cs

/-- a separator of lines or of paragraphs -/
def isSeparator (c : Char) : Bool := c.toNat = 0x2028 || c.toNat = 0x2029

/-- a separator as a line end -/
def lineEndOf (c : Char) : Char := if isSeparator c then '\n' else c

/-- one line end for each that is written with a carriage return -/
def unifyReturns : List Char → List Char
  | [] => []
  | '\r' :: '\n' :: cs => '\n' :: unifyReturns cs
  | c :: cs => (if c = '\r' then '\n' else c) :: unifyReturns cs

/-- the text with one kind of line ends -/
def unified (cs : List Char) : List Char := unifyReturns (cs.map lineEndOf)

/-- a text with its quotes and backslashes escaped -/
def escapeMarks (cs : List Char) : List Char :=
  Chars.replaceChar '"' ['\\', '"'] (Chars.replaceChar '\\' ['\\', '\\'] cs)

/-- and with its line ends -/
def escapeLineEnds (cs : List Char) : List Char :=
  Chars.replaceChar '\n' ['\\', 'n'] (Chars.replaceChar '\r' ['\\', 'n']
    (Chars.replaceAll ['\r', '\n'] ['\\', 'n'] cs))

/-- how a character of a string is written -/
def scriptChar (c : Char) : List Char :=
  if c = '\r' ∨ c = '\n' then ['\\', 'n'] else if c = '\\' ∨ c = '"' then ['\\', c] else [c]

theorem escapeMarks_cons (c : Char) (cs : List Char) :
    escapeMarks (c :: cs)
      = (if c = '\\' ∨ c = '"' then ['\\', c] else [c]) ++ escapeMarks cs := by
  by_cases backslash : c = '\\'
  · subst backslash; rfl
  · by_cases quote : c = '"'
    · subst quote; rfl
    · simp [escapeMarks, Chars.replaceChar, backslash, quote]

theorem escapeLineEnds_pair (cs : List Char) :
    escapeLineEnds ('\r' :: '\n' :: cs) = ['\\', 'n'] ++ escapeLineEnds cs := rfl

/-- a character is written by itself, unless it is half of a line end -/
theorem escapeLineEnds_cons {c : Char} {cs : List Char} (h : c = '\r' → cs.head? ≠ some '\n') :
    escapeLineEnds (c :: cs)
      = (if c = '\r' ∨ c = '\n' then ['\\', 'n'] else [c]) ++ escapeLineEnds cs := by
  have alone : Chars.startsWith ['\r', '\n'] (c :: cs) = false := by
    by_cases returns : c = '\r'
    · cases cs with
      | nil => simp [Chars.startsWith, Chars.dropPrefix?]
      | cons d cs =>
        have other : d ≠ '\n' := fun same => h returns (congrArg some same)
        simp [Chars.startsWith, Chars.dropPrefix?, Ne.symm other]
    · simp [Chars.startsWith, Chars.dropPrefix?, Ne.symm returns]
  have kept : Chars.replaceAll ['\r', '\n'] ['\\', 'n'] (c :: cs)
      = [c] ++ Chars.replaceAll ['\r', '\n'] ['\\', 'n'] cs := by
    rw [Chars.replaceAll, Chars.replaceFrom, alone]
    rfl
  rw [escapeLineEnds, kept, Chars.replaceChar_append, Chars.replaceChar_append]
  congr 1
  by_cases returns : c = '\r'
  · subst returns; rfl
  · by_cases lineEnd : c = '\n'
    · subst lineEnd; rfl
    · simp [Chars.replaceChar, returns, lineEnd]

theorem head?_escapeMarks {cs : List Char} (h : cs.head? ≠ some '\n') :
    (escapeMarks cs).head? ≠ some '\n' := by
  cases cs with
  | nil => exact h
  | cons c cs =>
    rw [escapeMarks_cons]
    split
    · exact fun e => absurd (Option.some.inj e) (by decide)
    · exact h

/-- a character of a string that is no half of a line end -/
theorem escaped_cons {c : Char} {cs : List Char} (h : c = '\r' → cs.head? ≠ some '\n') :
    escapeLineEnds (escapeMarks (c :: cs)) = scriptChar c ++ escapeLineEnds (escapeMarks cs) := by
  by_cases mark : c = '\\' ∨ c = '"'
  · have ends : ¬ (c = '\r' ∨ c = '\n') := by rcases mark with rfl | rfl <;> decide
    rw [escapeMarks_cons, if_pos mark, scriptChar, if_neg ends, if_pos mark]
    show escapeLineEnds ('\\' :: c :: escapeMarks cs) = _
    rw [escapeLineEnds_cons fun e => absurd e (by decide),
      escapeLineEnds_cons fun e => absurd (.inl e) ends, if_neg ends]
    rfl
  · rw [escapeMarks_cons, if_neg mark, scriptChar, if_neg mark]
    exact escapeLineEnds_cons fun returns => head?_escapeMarks (h returns)

theorem readScript_scriptChar (c : Char) (cs : List Char) :
    readScript (scriptChar c ++ cs) = (if c = '\r' then '\n' else c) :: readScript cs := by
  unfold scriptChar
  by_cases lineEnd : c = '\r' ∨ c = '\n'
  · rcases lineEnd with rfl | rfl <;> rfl
  · obtain ⟨returns, ends⟩ := not_or.mp lineEnd
    rw [if_neg lineEnd, if_neg returns]
    by_cases mark : c = '\\' ∨ c = '"'
    · rcases mark with rfl | rfl <;> rfl
    · rw [if_neg mark]
      obtain ⟨backslash, -⟩ := not_or.mp mark
      rw [List.singleton_append, readScript]
      · exact fun e => absurd e backslash
      · exact fun d ds e => absurd e backslash

/-- a string is written character by character, once its line ends are alike -/
theorem escaped_eq (cs : List Char) :
    escapeLineEnds (escapeMarks cs) = (unifyReturns cs).flatMap scriptChar := by
  fun_induction unifyReturns cs with
  | case1 => rfl
  | case2 cs ih =>
    rw [escapeMarks_cons, escapeMarks_cons, List.flatMap_cons, ← ih]
    exact escapeLineEnds_pair _
  | case3 c cs other ih =>
    have alone : c = '\r' → cs.head? ≠ some '\n' := by
      intro returns first
      cases cs with
      | nil => cases first
      | cons d cs => exact other cs returns (by rw [Option.some.inj first])
    rw [escaped_cons alone, List.flatMap_cons, ih]
    by_cases returns : c = '\r'
    · subst returns
      rfl
    · rw [if_neg returns]

theorem scriptChars_eq (cs : List Char) : scriptChars cs = (unified cs).flatMap scriptChar :=
  escaped_eq (cs.map lineEndOf)

theorem readScript_flatMap {cs : List Char} (h : ∀ c ∈ cs, c ≠ '\r') :
    readScript (cs.flatMap scriptChar) = cs := by
  induction cs with
  | nil => rfl
  | cons c cs ih =>
    obtain ⟨returns, h⟩ := List.forall_mem_cons.mp h
    rw [List.flatMap_cons, readScript_scriptChar, if_neg returns, ih h]

theorem mem_unifyReturns {c : Char} {cs : List Char} (h : c ∈ unifyReturns cs) :
    c ≠ '\r' ∧ (c = '\n' ∨ c ∈ cs) := by
  fun_induction unifyReturns cs with
  | case1 => cases h
  | case2 cs ih =>
    rcases List.mem_cons.mp h with rfl | h
    · exact ⟨by decide, .inl rfl⟩
    · exact (ih h).imp_right (.imp_right fun h => List.mem_cons_of_mem _ (List.mem_cons_of_mem _ h))
  | case3 d cs other ih =>
    rcases List.mem_cons.mp h with rfl | h
    · by_cases returns : d = '\r'
      · rw [if_pos returns]
        exact ⟨by decide, .inl rfl⟩
      · rw [if_neg returns]
        exact ⟨returns, .inr List.mem_cons_self⟩
    · exact (ih h).imp_right (.imp_right (List.mem_cons_of_mem _))

/-- **A string of a script is read back**, but for its line ends. -/
theorem readScript_scriptChars (cs : List Char) : readScript (scriptChars cs) = unified cs := by
  rw [scriptChars_eq]
  exact readScript_flatMap fun c hc => (mem_unifyReturns hc).1

/-! ## texts that are shown alike -/

/-- a line end that a string does not keep as it is -/
def isOddLineEnd (c : Char) : Bool := c = '\r' || isSeparator c

theorem unifyReturns_of_not_mem {cs : List Char} (h : '\r' ∉ cs) : unifyReturns cs = cs := by
  fun_induction unifyReturns cs with
  | case1 => rfl
  | case2 => exact absurd List.mem_cons_self h
  | case3 c cs other ih =>
    obtain ⟨first, others⟩ := not_or.mp (fun e => h (List.mem_cons.mpr e))
    rw [if_neg (Ne.symm first), ih others]

/-- a text stays as it is if it has no line ends but plain ones -/
theorem unified_eq_self_iff {cs : List Char} :
    unified cs = cs ↔ ∀ c ∈ cs, isOddLineEnd c = false := by
  constructor
  · intro same c hc
    obtain ⟨returns, lineEnd | hc⟩ := mem_unifyReturns (same.symm ▸ hc : c ∈ unified cs)
    · subst lineEnd
      decide
    · obtain ⟨d, -, rfl⟩ := List.mem_map.mp hc
      have kept : isSeparator (lineEndOf d) = false := by
        unfold lineEndOf
        split
        · decide
        · next plain => exact Bool.eq_false_iff.mpr plain
      rw [isOddLineEnd, kept, decide_eq_false returns]
      rfl
  · intro plain
    have mapped : cs.map lineEndOf = cs := by
      refine (List.map_congr_left fun c hc => ?_).trans (List.map_id cs)
      exact if_neg (Bool.eq_false_iff.mp (Bool.or_eq_false_iff.mp (plain c hc)).2)
    rw [unified, mapped]
    exact unifyReturns_of_not_mem fun h => absurd (plain _ h) (by decide)

/-- what is read in a string is what is read in a content just if there is no line end -/
theorem map_char_unified_iff {cs : List Char} :
    (unified cs).map Mark.char = cs.map contentMark ↔
      ∀ c ∈ cs, c ≠ '\n' ∧ isOddLineEnd c = false := by
  have chars (h : '\n' ∉ cs) : cs.map contentMark = cs.map .char :=
    List.map_congr_left fun c hc => if_neg fun same : c = '\n' => h (same ▸ hc)
  constructor
  · intro same
    have lines : '\n' ∉ cs := fun h => by
      -- a string has no breaks
      have breaks : Mark.lineBreak ∈ (unified cs).map Mark.char :=
        same ▸ List.mem_map.mpr ⟨_, h, rfl⟩
      obtain ⟨c, -, e⟩ := List.mem_map.mp breaks
      cases e
    rw [chars lines] at same
    have odd := unified_eq_self_iff.mp ((List.map_inj_right fun _ _ => Mark.char.inj).mp same)
    exact fun c hc => ⟨fun e => lines (e ▸ hc), odd c hc⟩
  · intro plain
    rw [chars fun h => (plain _ h).1 rfl, unified_eq_self_iff.mpr fun c hc => (plain c hc).2]

end Escape
end Handoff
