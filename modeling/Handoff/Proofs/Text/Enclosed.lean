import Handoff.Proofs.Text.Members
import Handoff.Text.Escape

/-!
# Texts between delimiters

Code holds texts between quotes and between backticks.  A reader of the code takes such a text to end
at the first mark that is not escaped, wherever it was meant to end.

* `Enclosure.read`      where a reader is behind a text, as long as it is inside of it;
* `Enclosure.upTo`      the text up to the mark that ends it, and what follows;
* `Enclosure.Keeps`     a text is read as it was meant, whatever follows it;
* `keeps_iff`           no mark ends it, and it does not end in a backslash that takes the mark;
* `keeps_attributeChars`, `keeps_scriptChars`   texts that are escaped are kept.
-/

namespace Handoff

inductive Enclosure where
  /-- double quotes in markup, where nothing takes a quote its meaning -/
  | attribute
  /-- double quotes in a script -/
  | script
  /-- backticks in a script; a dollar sign in front of a brace begins an interpolation -/
  | template
deriving DecidableEq, Repr

namespace Enclosure

/-- where a reader is -/
inductive Place where
  | plain
  /-- behind a backslash, which makes an ordinary character of the next one -/
  | escaped
  | dollar
deriving DecidableEq, Repr

def mark : Enclosure → Char
  | .attribute | .script => '"'
  | .template => '\x60'

/-- where a reader is behind one more character, unless the text ends or is interrupted there -/
def step (e : Enclosure) (p : Place) (c : Char) : Option Place :=
  match e, p with
  | .attribute, _ => if c = '"' then none else some .plain
  | .script, .escaped | .template, .escaped => some .plain
  | .script, _ => if c = '"' then none else some (if c = '\\' then .escaped else .plain)
  | .template, p =>
    if c = '\x60' ∨ p = .dollar ∧ c = '\x7b' then none
    else some (if c = '\\' then .escaped else if c = '$' then .dollar else .plain)

/-- where a reader is behind a text, unless that ends inside of itself or is interrupted -/
def read (e : Enclosure) (p : Place) (cs : List Char) : Option Place := cs.foldlM e.step p

/-- the text up to the mark that ends it, and what follows the mark -/
def upTo (e : Enclosure) (p : Place) : List Char → Option (List Char × List Char)
  | [] => none
  | c :: cs =>
    if c = e.mark ∧ p ≠ .escaped then some ([], cs)
    else (e.step p c).bind fun q => (upTo e q cs).map fun t => (c :: t.1, t.2)

/-- between its marks the text is read as it is, whatever follows -/
def Keeps (e : Enclosure) (cs : List Char) : Prop :=
  ∀ rest, e.upTo .plain (cs ++ e.mark :: rest) = some (cs, rest)

/-! ## reading -/

variable {e : Enclosure} {p : Place}

theorem read_cons (e : Enclosure) (p : Place) (c : Char) (cs : List Char) :
    e.read p (c :: cs) = (e.step p c).bind fun q => e.read q cs := rfl

theorem read_append (e : Enclosure) (p : Place) (a b : List Char) :
    e.read p (a ++ b) = (e.read p a).bind fun q => e.read q b := List.foldlM_append

theorem step_mark (h : p ≠ .escaped) : e.step p e.mark = none := by
  cases e <;> cases p <;> first | exact absurd rfl h | rfl

/-- a text is read up to a mark just if the reader comes there and takes the mark for one -/
theorem upTo_mark_iff {cs : List Char} : ∀ {p : Place},
    (∀ rest, e.upTo p (cs ++ e.mark :: rest) = some (cs, rest))
      ↔ ∃ q, e.read p cs = some q ∧ q ≠ .escaped := by
  induction cs with
  | nil =>
    intro p
    by_cases h : p = .escaped
    · refine iff_of_false (fun all => ?_) fun ⟨q, hq, ordinary⟩ =>
        ordinary ((Option.some.inj hq).symm.trans h)
      have first := all []
      rw [List.nil_append, upTo, if_neg fun both => both.2 h] at first
      obtain ⟨q, -, rest⟩ := Option.bind_eq_some_iff.mp first
      obtain ⟨t, -, longer⟩ := Option.map_eq_some_iff.mp rest
      exact List.cons_ne_nil _ _ (Prod.mk.inj longer).1
    · exact iff_of_true (fun rest => if_pos ⟨rfl, h⟩) ⟨p, rfl, h⟩
  | cons c cs ih =>
    intro p
    rw [read_cons]
    simp only [List.cons_append, upTo]
    by_cases h : c = e.mark ∧ p ≠ .escaped
    · rw [h.1, step_mark h.2]
      refine iff_of_false (fun all => ?_) fun ⟨q, hq, _⟩ => nomatch hq
      have first := all []
      rw [if_pos ⟨rfl, h.2⟩] at first
      exact List.cons_ne_nil _ _ (Prod.mk.inj (Option.some.inj first)).1.symm
    · simp only [if_neg h]
      cases e.step p c with
      | none => exact iff_of_false (fun all => nomatch all []) fun ⟨q, hq, _⟩ => nomatch hq
      | some q =>
        simp only [Option.bind_some]
        rw [← ih]
        refine forall_congr' fun rest => ?_
        rw [Option.map_eq_some_iff]
        constructor
        · rintro ⟨t, ht, longer⟩
          obtain ⟨same, rfl⟩ := Prod.mk.inj longer
          rw [ht, ← (List.cons.inj same).2]
        · exact fun ht => ⟨_, ht, rfl⟩

theorem keeps_iff {cs : List Char} :
    e.Keeps cs ↔ ∃ q, e.read .plain cs = some q ∧ q ≠ .escaped := upTo_mark_iff

instance {cs : List Char} : Decidable (e.Keeps cs) :=
  decidable_of_iff ((e.read .plain cs).any (· ≠ .escaped) = true) (by
    rw [keeps_iff, Option.any_eq_true]
    simp only [decide_eq_true_eq])

theorem keeps_of_read {cs : List Char} (h : e.read .plain cs = some .plain) : e.Keeps cs :=
  keeps_iff.mpr ⟨.plain, h, nofun⟩

/-! ## ordinary characters -/

/-- a character that means nothing to any reader -/
def IsOrdinary (c : Char) : Prop := c ≠ '"' ∧ c ≠ '\x60' ∧ c ≠ '\\' ∧ c ≠ '$'

instance (c : Char) : Decidable (IsOrdinary c) := inferInstanceAs (Decidable (_ ∧ _))

theorem read_ordinary {cs : List Char} (h : ∀ c ∈ cs, IsOrdinary c) :
    e.read .plain cs = some .plain := by
  induction cs with
  | nil => rfl
  | cons c cs ih =>
    obtain ⟨quote, backtick, backslash, dollar⟩ := h c List.mem_cons_self
    have stays : e.step .plain c = some .plain := by
      cases e <;> simp [step, quote, backtick, backslash, dollar]
    rw [read_cons, stays]
    exact ih fun d hd => h d (List.mem_cons_of_mem _ hd)

/-- behind an ordinary character a reader is plain again, wherever it was -/
theorem step_ordinary {c : Char} (h : IsOrdinary c) (brace : c ≠ '\x7b') :
    e.step p c = some .plain := by
  obtain ⟨quote, backtick, backslash, dollar⟩ := h
  cases e <;> cases p <;> simp [step, quote, backtick, backslash, dollar, brace]

/-- what is around a text does not matter to where it ends -/
theorem read_around {front cs back : List Char} {c : Char} (hf : ∀ d ∈ front, IsOrdinary d)
    (hc : IsOrdinary c) (brace : c ≠ '\x7b') (hb : ∀ d ∈ back, IsOrdinary d) :
    e.read .plain (front ++ cs ++ c :: back) = (e.read .plain cs).map fun _ => .plain := by
  rw [List.append_assoc, read_append, read_ordinary hf, Option.bind_some, read_append]
  cases e.read .plain cs with
  | none => rfl
  | some p =>
    rw [Option.bind_some, read_cons, step_ordinary hc brace]
    exact read_ordinary hb

/-- pieces that leave a reader plain or end the text, between ordinary ones -/
theorem read_intercalate {sep : List Char} {pieces : List (List Char)}
    (hs : ∀ c ∈ sep, IsOrdinary c)
    (h : ∀ w ∈ pieces, e.read .plain w = some .plain ∨ e.read .plain w = none) :
    e.read .plain (List.intercalate sep pieces) =
      if ∀ w ∈ pieces, e.read .plain w = some .plain then some .plain else none := by
  induction pieces with
  | nil => rw [if_pos (List.forall_mem_nil _)]; rfl
  | cons w pieces ih =>
    have ih := ih fun v hv => h v (List.mem_cons_of_mem _ hv)
    rcases h w List.mem_cons_self with whole | broken
    · have all : (∀ v ∈ w :: pieces, e.read .plain v = some .plain)
          ↔ ∀ v ∈ pieces, e.read .plain v = some .plain := by
        rw [List.forall_mem_cons, and_iff_right whole]
      simp only [all]
      cases pieces with
      | nil => rw [List.intercalate_singleton, whole, if_pos (List.forall_mem_nil _)]
      | cons v pieces =>
        rw [List.intercalate_cons_cons, List.append_assoc, read_append, whole, Option.bind_some,
          read_append, read_ordinary hs, Option.bind_some]
        exact ih
    · have some_broken : ¬ ∀ v ∈ w :: pieces, e.read .plain v = some .plain := fun all => by
        rw [all w List.mem_cons_self] at broken
        cases broken
      rw [if_neg some_broken]
      cases pieces with
      | nil => rw [List.intercalate_singleton, broken]
      | cons v pieces =>
        rw [List.intercalate_cons_cons, List.append_assoc, read_append, broken]
        rfl

/-- in markup a text ends at its first quote and nowhere else -/
theorem read_attribute (cs : List Char) :
    Enclosure.attribute.read .plain cs = if '"' ∈ cs then none else some .plain := by
  induction cs with
  | nil => rfl
  | cons c cs ih =>
    have step : Enclosure.attribute.step .plain c = if c = '"' then none else some .plain := rfl
    rw [read_cons, step]
    by_cases h : c = '"'
    · rw [if_pos h, if_pos (h ▸ List.mem_cons_self)]
      rfl
    · rw [if_neg h]
      have same : '"' ∈ c :: cs ↔ '"' ∈ cs := by rw [List.mem_cons, or_iff_right (Ne.symm h)]
      simp only [same]
      exact ih

theorem keeps_attribute_iff {cs : List Char} : Enclosure.attribute.Keeps cs ↔ '"' ∉ cs := by
  rw [keeps_iff, read_attribute]
  split
  · next quote => exact iff_of_false (fun ⟨_, h, _⟩ => nomatch h) fun h => h quote
  · next unquoted => exact iff_of_true ⟨.plain, rfl, nofun⟩ unquoted

/-! ## escapes -/

theorem keeps_attributeChars (cs : List Char) :
    Enclosure.attribute.Keeps (Escape.attributeChars cs) := by
  rw [keeps_attribute_iff, Escape.attributeChars, Chars.mem_replaceChar]
  rintro (⟨-, new⟩ | ⟨-, ne⟩)
  · exact absurd new (by decide)
  · exact ne rfl

/-- a text of a script in which quotes and backslashes are escaped -/
inductive Escaped : List Char → Prop
  | nil : Escaped []
  | pair {c : Char} {cs : List Char} (known : c = '\\' ∨ c = '"' ∨ c = 'n') (rest : Escaped cs) :
      Escaped ('\\' :: c :: cs)
  | char {c : Char} {cs : List Char} (quote : c ≠ '"') (backslash : c ≠ '\\') (rest : Escaped cs) :
      Escaped (c :: cs)

theorem Escaped.read {cs : List Char} (h : Escaped cs) :
    Enclosure.script.read .plain cs = some .plain := by
  induction h with
  | nil => rfl
  | pair known rest ih => exact ih
  | @char c cs quote backslash rest ih =>
    have stays : Enclosure.script.step .plain c = some .plain := by
      simp [step, quote, backslash]
    rw [read_cons, stays]
    exact ih

theorem escaped_marks (cs : List Char) : Escaped (Chars.replaceChar '"' ['\\', '"']
    (Chars.replaceChar '\\' ['\\', '\\'] cs)) := by
  induction cs with
  | nil => exact .nil
  | cons c cs ih =>
    have first : Chars.replaceChar '\\' ['\\', '\\'] (c :: cs)
        = (if c = '\\' then ['\\', '\\'] else [c]) ++ Chars.replaceChar '\\' ['\\', '\\'] cs := rfl
    rw [first, Chars.replaceChar_append]
    by_cases backslash : c = '\\'
    · rw [if_pos backslash]
      exact .pair (.inl rfl) ih
    · rw [if_neg backslash]
      by_cases quote : c = '"'
      · rw [quote]
        exact .pair (.inr (.inl rfl)) ih
      · have kept : Chars.replaceChar '"' ['\\', '"'] [c] = [c] := by
          simp [Chars.replaceChar, quote]
        rw [kept]
        exact .char quote backslash ih

theorem not_lineEnd {c : Char} (h : c = '\\' ∨ c = '"' ∨ c = 'n') : c ≠ '\r' ∧ c ≠ '\n' := by
  rcases h with rfl | rfl | rfl <;> decide

theorem Escaped.replaceChar {c : Char} {cs : List Char} (h : Escaped cs)
    (lineEnd : c = '\r' ∨ c = '\n') : Escaped (Chars.replaceChar c ['\\', 'n'] cs) := by
  have ne {d : Char} (hd : d ≠ '\r' ∧ d ≠ '\n') : d ≠ c := by
    rcases lineEnd with rfl | rfl
    · exact hd.1
    · exact hd.2
  have kept {d : Char} (hd : d ≠ c) (cs : List Char) : Chars.replaceChar c ['\\', 'n'] (d :: cs)
      = d :: Chars.replaceChar c ['\\', 'n'] cs := by
    simp [Chars.replaceChar, hd]
  induction h with
  | nil => exact .nil
  | pair known rest ih =>
    rw [kept (ne (by decide)), kept (ne (not_lineEnd known))]
    exact .pair known ih
  | @char d cs quote backslash rest ih =>
    by_cases hd : d = c
    · rw [hd]
      have new : Chars.replaceChar c ['\\', 'n'] (c :: cs)
          = '\\' :: 'n' :: Chars.replaceChar c ['\\', 'n'] cs := by simp [Chars.replaceChar]
      rw [new]
      exact .pair (.inr (.inr rfl)) ih
    · rw [kept hd]
      exact .char quote backslash ih

/-- of a line end of two characters the second is skipped, so the induction looks one character
ahead -/
theorem Escaped.replaceLineEnds {cs : List Char} (h : Escaped cs) :
    Escaped (Chars.replaceAll ['\r', '\n'] ['\\', 'n'] cs) := by
  let replaced := Chars.replaceFrom ['\r', '\n'] ['\\', 'n'] 0
  have kept {d : Char} (hd : d ≠ '\r') (cs : List Char) : replaced (d :: cs) = d :: replaced cs := by
    simp [replaced, Chars.replaceFrom, Chars.startsWith, Chars.dropPrefix?, Ne.symm hd]
  suffices Escaped (replaced cs) ∧ ∀ ds, cs = '\n' :: ds → Escaped (replaced ds) from this.1
  induction h with
  | nil => exact ⟨.nil, fun _ e => absurd e.symm (List.cons_ne_nil _ _)⟩
  | pair known rest ih =>
    refine ⟨?_, fun ds e => absurd (List.cons.inj e).1 (by decide)⟩
    rw [kept (by decide), kept (not_lineEnd known).1]
    exact .pair known ih.1
  | @char d cs quote backslash rest ih =>
    refine ⟨?_, fun ds e => (List.cons.inj e).2 ▸ ih.1⟩
    by_cases hd : d = '\r'
    · cases cs with
      | nil => rw [hd]; exact .char (by decide) (by decide) .nil
      | cons x ds =>
        by_cases hx : x = '\n'
        · rw [hd, hx]
          exact .pair (.inr (.inr rfl)) (ih.2 ds (by rw [hx]))
        · have alone : replaced (d :: x :: ds) = d :: replaced (x :: ds) := by
            simp [replaced, Chars.replaceFrom, Chars.startsWith, Chars.dropPrefix?, Ne.symm hx]
          rw [alone]
          exact .char quote backslash ih.1
    · rw [kept hd]
      exact .char quote backslash ih.1

theorem keeps_scriptChars (cs : List Char) : Enclosure.script.Keeps (Escape.scriptChars cs) := by
  have escaped := ((escaped_marks (cs.map fun c =>
    if c.toNat = 0x2028 || c.toNat = 0x2029 then '\n' else c)).replaceLineEnds.replaceChar
      (.inl rfl)).replaceChar (.inr rfl)
  exact keeps_of_read escaped.read

end Enclosure
end Handoff
