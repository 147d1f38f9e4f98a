import Handoff.Proofs.Naming.Issued
import Handoff.Proofs.Text.Ascii
import Handoff.Proofs.Text.Members

/-!
# Element names in kebab case

Kebab case forgets the case of letters, so it is not injective on element names: two names that
differ in their case may become one.  Nothing else is forgotten, and the counter of a name can still
be read off: a dash is followed by a letter unless it begins the counter.

* `mem_kebabChars`          kebab case is written in lower-case letters, digits and dashes;
* `digits_inj`              where digits end a text, they can be read off;
* `kebabChars_form`         kebab case of an element name, with and without a counter;
* `lower_eq_of_kebab_eq`    names that become one are the same in lower case;
* `two_digits_of_kebab`     digits behind a dash are at least two.
-/

namespace Handoff.Naming
open Chars

/-- the characters of class names -/
def IsKebab (c : Char) : Prop := c = '-' ∨ isAsciiLower c = true ∨ isAsciiDigit c = true

theorem isKebab_toLower {c : Char} (h : isAsciiAlnum c = true) : IsKebab c.toLower := by
  rcases toLower_of_alnum h with lower | ⟨digit, e⟩
  · exact .inr (.inl lower)
  · exact .inr (.inr (by rw [e]; exact digit))

theorem isKebab_not_blank {c : Char} (h : IsKebab c) : isBlank c = false := by
  rcases h with rfl | lower | digit
  · decide
  · exact isBlank_of_alnum (isAsciiAlnum_of_lower lower)
  · exact isBlank_of_alnum (isAsciiAlnum_of_digit digit)

theorem mem_kebabFrom {cs : List Char} : ∀ {dash lowered : Bool},
    ∀ c ∈ kebabFrom dash lowered cs, IsKebab c := by
  induction cs with
  | nil => exact fun c hc => absurd hc List.not_mem_nil
  | cons d cs ih =>
    have dashes {b : Bool} {c : Char} (hc : c ∈ if b = true then ['-'] else []) : IsKebab c := by
      cases b with
      | false => exact absurd hc List.not_mem_nil
      | true => exact .inl (List.mem_singleton.mp hc)
    intro dash lowered c hc
    unfold kebabFrom at hc
    split at hc
    · rcases List.mem_append.mp hc with hc | hc
      · cases dash with
        | true => exact absurd hc List.not_mem_nil
        | false => exact .inl (List.mem_singleton.mp hc)
      · exact ih c hc
    · split at hc
      · next alnum =>
        rcases List.mem_append.mp hc with hc | hc
        · exact dashes hc
        · rcases List.mem_cons.mp hc with rfl | hc
          · exact isKebab_toLower alnum
          · exact ih c hc
      · exact ih c hc

theorem mem_kebabChars {cs : List Char} : ∀ c ∈ kebabChars cs, IsKebab c := by
  intro c hc
  unfold kebabChars at hc
  dsimp only at hc
  split at hc
  · have own : ['c', 'o', 'm', 'p', 'o', 'n', 'e', 'n', 't'].all isAsciiLower = true := by decide
    exact .inr (.inl (List.all_eq_true.mp own c hc))
  · exact mem_kebabFrom c (mem_of_mem_trimBy hc)

/-! ## digits at the end -/

/-- where digits end a text, they can be read off, and what stands in front of them -/
theorem digits_inj {a a' ds ds' : List Char} {c c' : Char} (hc : isAsciiDigit c = false)
    (hc' : isAsciiDigit c' = false) (hds : ∀ d ∈ ds, isAsciiDigit d = true)
    (hds' : ∀ d ∈ ds', isAsciiDigit d = true) (h : a ++ c :: ds = a' ++ c' :: ds') :
    a = a' ∧ c = c' ∧ ds = ds' := by
  have read {b es : List Char} {e : Char} (he : isAsciiDigit e = false)
      (hes : ∀ d ∈ es, isAsciiDigit d = true) :
      (b ++ e :: es).reverse.takeWhile isAsciiDigit = es.reverse := by
    rw [List.reverse_append, List.reverse_cons, List.append_assoc,
      List.takeWhile_append_of_pos fun d hd => hes d (List.mem_reverse.mp hd),
      List.singleton_append, List.takeWhile_cons_of_neg (by rw [he]; decide), List.append_nil]
  have digits : ds = ds' := by
    rw [← List.reverse_inj, ← read hc hds, h, read hc' hds']
  rw [digits, List.append_cons, List.append_cons a'] at h
  have front := List.append_cancel_right h
  exact ⟨(List.append_inj' front rfl).1, (List.cons.inj (List.append_inj' front rfl).2).1, digits⟩

/-! ## kebab case of letters and digits -/

section
variable {c : Char} {cs : List Char}

theorem kebabFrom_alnum (h : isAsciiAlnum c = true) (dash lowered : Bool) (cs : List Char) :
    kebabFrom dash lowered (c :: cs) = (if isAsciiUpper c && lowered then ['-'] else [])
      ++ c.toLower :: kebabFrom false (isAsciiLower c || isAsciiDigit c) cs := by
  have separates : (isBlank c || c == '_' || c == '-') = false := by
    rw [isBlank_of_alnum h, beq_eq_false_iff_ne.mpr (ne_of_alnum h (by decide)),
      beq_eq_false_iff_ne.mpr (ne_of_alnum h (by decide))]
    rfl
  rw [kebabFrom, separates, h, if_neg Bool.false_ne_true, if_pos rfl]

theorem kebabFrom_digits (h : ∀ d ∈ cs, isAsciiDigit d = true) (dash lowered : Bool) :
    kebabFrom dash lowered cs = cs := by
  induction cs generalizing dash lowered with
  | nil => rfl
  | cons c cs ih =>
    have digit := h c List.mem_cons_self
    rw [kebabFrom_alnum (isAsciiAlnum_of_digit digit), isAsciiUpper_of_digit digit,
      toLower_of_digit digit, ih fun d hd => h d (List.mem_cons_of_mem _ hd)]
    rfl

theorem kebabFrom_counter {ds : List Char} (h : ∀ c ∈ cs, isAsciiAlnum c = true)
    (hds : ∀ d ∈ ds, isAsciiDigit d = true) (lowered : Bool) :
    kebabFrom false lowered (cs ++ '_' :: ds) = kebabFrom false lowered cs ++ '-' :: ds := by
  induction cs generalizing lowered with
  | nil =>
    show ['-'] ++ kebabFrom true false ds = _
    rw [kebabFrom_digits hds]
    rfl
  | cons c cs ih =>
    have alnum := h c List.mem_cons_self
    rw [List.cons_append, kebabFrom_alnum alnum, kebabFrom_alnum alnum,
      ih fun d hd => h d (List.mem_cons_of_mem _ hd), List.append_assoc, List.cons_append]

/-- without its dashes it is the text in lower case -/
theorem filter_kebabFrom (h : ∀ c ∈ cs, isAsciiAlnum c = true) (dash lowered : Bool) :
    (kebabFrom dash lowered cs).filter (· ≠ '-') = lower cs := by
  induction cs generalizing dash lowered with
  | nil => rfl
  | cons c cs ih =>
    have alnum := h c List.mem_cons_self
    have kept : c.toLower ≠ '-' := by
      rcases toLower_of_alnum alnum with low | ⟨digit, e⟩
      · exact ne_of_alnum (isAsciiAlnum_of_lower low) (by decide)
      · rw [e]
        exact ne_of_alnum alnum (by decide)
    have dashes : (if (isAsciiUpper c && lowered) = true then ['-'] else []).filter
        (fun c => decide (c ≠ '-')) = [] := by
      split <;> rfl
    rw [kebabFrom_alnum alnum, List.filter_append, dashes, List.nil_append,
      List.filter_cons_of_pos (by exact decide_eq_true kept),
      ih fun d hd => h d (List.mem_cons_of_mem _ hd)]
    rfl

/-- letters and digits end in a letter and digits, unless they are digits only -/
theorem kebabFrom_end (h : ∀ c ∈ cs, isAsciiAlnum c = true) (dash lowered : Bool) :
    (∀ d ∈ kebabFrom dash lowered cs, isAsciiDigit d = true) ∨
      ∃ a c ds, kebabFrom dash lowered cs = a ++ c :: ds ∧ isAsciiLower c = true ∧
        ∀ d ∈ ds, isAsciiDigit d = true := by
  induction cs generalizing dash lowered with
  | nil => exact .inl (List.forall_mem_nil _)
  | cons c cs ih =>
    have alnum := h c List.mem_cons_self
    rw [kebabFrom_alnum alnum]
    rcases ih (fun d hd => h d (List.mem_cons_of_mem _ hd)) false
      (isAsciiLower c || isAsciiDigit c) with digits | ⟨a, e, ds, eq, low, digits⟩
    · rcases toLower_of_alnum alnum with low | ⟨digit, e⟩
      · exact .inr ⟨_, c.toLower, _, rfl, low, digits⟩
      · rw [isAsciiUpper_of_digit digit, e]
        exact .inl (List.forall_mem_cons.mpr ⟨digit, digits⟩)
    · rw [eq]
      exact .inr ⟨_ ++ c.toLower :: a, e, ds, by rw [List.append_assoc]; rfl, low, digits⟩

end

/-! ## element names -/

theorem trimBy_eq_self {p : Char → Bool} {cs a ds : List Char} {c : Char}
    (first : cs.head?.all (!p ·)) (e : cs = a ++ c :: ds) (hc : p c = false) (hds : ∀ d ∈ ds, p d = false) :
    trimBy p cs = cs := by
  have kept : cs.dropWhile p = cs := by
    cases cs with
    | nil => rfl
    | cons d cs => exact List.dropWhile_cons_of_neg (by simpa using first)
  have last : cs.reverse.dropWhile p = cs.reverse := by
    rw [e, List.reverse_append, List.reverse_cons, List.append_assoc]
    match h : ds.reverse with
    | [] => exact List.dropWhile_cons_of_neg (by rw [hc]; decide)
    | d :: _ =>
      have hd : d ∈ ds := List.mem_reverse.mp (h ▸ List.mem_cons_self)
      exact List.dropWhile_cons_of_neg (by rw [hds d hd]; decide)
  rw [trimBy, trimStartBy, kept, trimEndBy, last, List.reverse_reverse]

/-- an identifier in kebab case begins with a letter, and ends in a letter and digits -/
theorem kebabFrom_identifier {base : List Char} (h : IsIdentifier base) :
    (∃ c rest, kebabFrom false false base = c :: rest ∧ isAsciiLower c = true) ∧
      ∃ a c ds, kebabFrom false false base = a ++ c :: ds ∧ isAsciiLower c = true ∧
        ∀ d ∈ ds, isAsciiDigit d = true := by
  have alnum := isIdentifier_alnum h
  obtain ⟨c, rest, rfl, letter, _⟩ := h
  have low : isAsciiLower c.toLower = true := isAsciiLower_toLower letter
  have first := kebabFrom_alnum (alnum c List.mem_cons_self) false false rest
  rw [Bool.and_false] at first
  refine ⟨⟨c.toLower, _, first, low⟩, ?_⟩
  rcases kebabFrom_end alnum false false with digits | found
  · rw [first] at digits
    have digit := digits c.toLower List.mem_cons_self
    rw [not_digit_of_lower low] at digit
    cases digit
  · exact found

theorem not_dash {c : Char} (h : isAsciiLower c = true ∨ isAsciiDigit c = true) :
    (c == '-') = false :=
  beq_eq_false_iff_ne.mpr
    (ne_of_alnum (h.elim isAsciiAlnum_of_lower isAsciiAlnum_of_digit) (by decide))

/-- nothing is trimmed off, so kebab case is written from the first character to the last -/
theorem kebabChars_eq {cs a ds : List Char} {c d : Char} {rest : List Char}
    (first : kebabFrom false false cs = d :: rest) (hd : isAsciiLower d = true)
    (e : kebabFrom false false cs = a ++ c :: ds)
    (hc : isAsciiLower c = true ∨ isAsciiDigit c = true) (hds : ∀ d ∈ ds, isAsciiDigit d = true) :
    kebabChars cs = kebabFrom false false cs := by
  have same : trimBy (· == '-') (kebabFrom false false cs) = kebabFrom false false cs := by
    refine trimBy_eq_self ?_ e (not_dash hc) fun d hd => not_dash (.inr (hds d hd))
    rw [first]
    simpa using not_dash (.inl hd)
  rw [kebabChars, same, first]
  rfl

/-- kebab case of an element name ends in a letter and digits, or in a dash and a counter -/
theorem kebabChars_form {name : String} (h : IsElementName name) :
    ∃ base, IsIdentifier base ∧
      (name.toList = base ∧ kebabChars name.toList = kebabFrom false false base ∨
        ∃ ds, name.toList = base ++ '_' :: ds ∧ 2 ≤ ds.length ∧
          (∀ d ∈ ds, isAsciiDigit d = true) ∧
          kebabChars name.toList = kebabFrom false false base ++ '-' :: ds) := by
  obtain ⟨c, cs, suffix, e, letter, alnum, suffixed⟩ := h
  have identifier : IsIdentifier (c :: cs) := ⟨c, cs, rfl, letter, alnum⟩
  obtain ⟨⟨d, rest, first, low⟩, a, b, ds, last, low', digits⟩ := kebabFrom_identifier identifier
  refine ⟨c :: cs, identifier, ?_⟩
  rcases suffixed with rfl | ⟨counter, rfl, two, counts⟩
  · rw [List.append_nil] at e
    rw [e]
    exact .inl ⟨rfl, kebabChars_eq first low last (.inl low') digits⟩
  · right
    have whole := kebabFrom_counter (isIdentifier_alnum identifier) counts false
    rw [e]
    refine ⟨counter, rfl, two, counts, ?_⟩
    match counter, two with
    | x :: xs, _ =>
      have last : kebabFrom false false (c :: cs ++ '_' :: x :: xs)
          = (kebabFrom false false (c :: cs) ++ ['-']) ++ x :: xs := by
        rw [whole, List.append_assoc]
        rfl
      refine (kebabChars_eq (by rw [whole, first]; rfl) low last (.inr ?_) ?_).trans whole
      · exact counts x List.mem_cons_self
      · exact fun d hd => counts d (List.mem_cons_of_mem _ hd)

/-- element names with one kebab case are the same but for the case of their letters -/
theorem lower_eq_of_kebab_eq {m n : String} (hm : IsElementName m) (hn : IsElementName n)
    (h : kebab m = kebab n) : lower m.toList = lower n.toList := by
  have h : kebabChars m.toList = kebabChars n.toList := by
    simpa [kebab] using congrArg String.toList h
  have read {b b' : List Char} (hb : IsIdentifier b) (hb' : IsIdentifier b')
      (h : kebabFrom false false b = kebabFrom false false b') : lower b = lower b' := by
    rw [← filter_kebabFrom (isIdentifier_alnum hb), h, filter_kebabFrom (isIdentifier_alnum hb')]
  -- a letter is no dash, so one name has a counter if the other one has
  have mixed {b b' ds : List Char} (hb : IsIdentifier b)
      (hds : ∀ d ∈ ds, isAsciiDigit d = true)
      (h : kebabFrom false false b = b' ++ '-' :: ds) : False := by
    obtain ⟨-, a, c, es, e, low, digits⟩ := kebabFrom_identifier hb
    have := (digits_inj (not_digit_of_lower low) (by decide) digits hds (e ▸ h)).2.1
    exact absurd low (by rw [this]; decide)
  obtain ⟨b, hb, ⟨em, km⟩ | ⟨ds, em, -, hds, km⟩⟩ := kebabChars_form hm <;>
    obtain ⟨b', hb', ⟨en, kn⟩ | ⟨ds', en, -, hds', kn⟩⟩ := kebabChars_form hn <;>
    rw [km, kn] at h
  · rw [em, en]
    exact read hb hb' h
  · exact (mixed hb hds' h).elim
  · exact (mixed hb' hds h.symm).elim
  · obtain ⟨front, -, rfl⟩ := digits_inj (by decide) (by decide) hds hds' h
    rw [em, en, lower, lower, List.map_append, List.map_append]
    exact congrArg (· ++ _) (read hb hb' front)

/-- behind a dash there are no digits but a counter, which has at least two -/
theorem two_digits_of_kebab {name : String} (h : IsElementName name) {a ds : List Char}
    (e : (kebab name).toList = a ++ '-' :: ds) (hds : ∀ d ∈ ds, isAsciiDigit d = true) :
    2 ≤ ds.length := by
  rw [kebab, Text.toList_onChars] at e
  obtain ⟨base, identifier, ⟨-, plain⟩ | ⟨ds', -, two, digits, counted⟩⟩ := kebabChars_form h
  · obtain ⟨-, a', c, es, e', low, digits⟩ := kebabFrom_identifier identifier
    rw [plain, e'] at e
    have := (digits_inj (not_digit_of_lower low) (by decide) digits hds e).2.1
    exact absurd low (by rw [this]; decide)
  · rw [counted] at e
    rw [← (digits_inj (by decide) (by decide) digits hds e).2.2]
    exact two

end Handoff.Naming
