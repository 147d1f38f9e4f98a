import Handoff.Proofs.ClassList.Words
import Handoff.Proofs.Text.Members

/-!
# Custom properties in parentheses

The newer spelling writes `bg-(--brand)` for `bg-[var(--brand,#fff)]`.  What it takes for such a
value is a `Reading` of the base: whatever starts like a custom property, or starts and ends like
one call of `var`.  Which bases are meant is narrower (`Promised`).

* `variableShorthand?_eq_some_iff`   the short form is that of a reading of the base;
* `Reading.unique`                   a base has one reading at most;
* `parenthesized_iff`                the classes that lose their brackets for parentheses;
* `promised_iff`                     the readings that are meant;
* `parenthesized_forms`              all of this for a class.
-/

namespace Handoff.ClassList

/-! ## names -/

/-- what stands in front of the first comma, without blanks around it -/
def firstArgument (args : String) : String :=
  Text.trim (String.ofList (args.toList.takeWhile fun c => c != ','))

/-- the value is a name that starts with two dashes, or starts and ends like a call of `var` whose
first argument is this name -/
def Names (value name : String) : Prop :=
  Text.startsWith "--" name = true ∧
    (value = name ∨ ∃ args, value = "var(" ++ args ++ ")" ∧ name = firstArgument args)

theorem firstArgument_eq (args : String) :
    Text.trim ((Text.splitOn ',' args).headD "") = firstArgument args := by
  have head := Chars.head_splitWhere (· == ',') args.toList
  rw [firstArgument, Text.splitOn, Text.splitWhere]
  refine congrArg Text.trim ?_
  cases pieces : Chars.splitWhere (· == ',') args.toList with
  | nil => exact absurd pieces (Chars.splitWhere_ne_nil _ _)
  | cons p ps =>
    rw [pieces] at head
    exact congrArg String.ofList head

theorem undashed_call (rest : String) : Text.startsWith "--" ("var(" ++ rest) = false := by
  rw [Bool.eq_false_iff, Ne, startsWith_iff, String.toList_append]
  exact fun dashes => absurd (List.cons_prefix_cons.mp dashes).1 (by decide)

theorem customProperty?_eq_some_iff {value name : String} :
    customProperty? value = some name ↔ Names value name := by
  cases dashed : Text.startsWith "--" value with
  | true =>
    rw [customProperty?, dashed, if_pos rfl, Option.some.injEq]
    constructor
    · rintro rfl
      exact ⟨dashed, .inl rfl⟩
    · rintro ⟨-, same | ⟨args, rfl, -⟩⟩
      · exact same
      · rw [String.append_assoc, undashed_call] at dashed
        cases dashed
  | false =>
    have call : customProperty? value = some name ↔ ∃ args, value = "var(" ++ args ++ ")" ∧
        Text.startsWith "--" (firstArgument args) = true ∧ firstArgument args = name := by
      simp only [customProperty?, dashed, Bool.false_eq_true, if_false, Option.bind_eq_bind,
        Option.bind_eq_some_iff, Text.dropPrefix?_eq_some_iff, Text.dropSuffix?_eq_some_iff,
        firstArgument_eq, Option.ite_none_right_eq_some, Option.some.injEq]
      constructor
      · rintro ⟨_, rfl, args, rfl, named⟩
        exact ⟨args, (String.append_assoc ..).symm, named⟩
      · rintro ⟨args, rfl, named⟩
        exact ⟨args ++ ")", String.append_assoc .., args, rfl, named⟩
    rw [call]
    constructor
    · rintro ⟨args, written, dashes, rfl⟩
      exact ⟨dashes, .inr ⟨args, written, rfl⟩⟩
    · rintro ⟨dashes, rfl | ⟨args, written, rfl⟩⟩
      · rw [dashes] at dashed
        cases dashed
      · exact ⟨args, written, dashes, rfl⟩

/-! ## hints -/

/-- nothing, or letters and a colon -/
def IsHint (hint : String) : Prop :=
  hint = "" ∨ ∃ letters, Text.all Chars.isAsciiAlpha letters = true ∧ hint = letters ++ ":"

/-- no letters and colon begin a text that has another character in front of its colons -/
theorem letters_colon_ne (front : List Char) (x : Char) (more : List Char)
    {letters rest : List Char} (plain : ':' ∉ front) (other : x ≠ ':')
    (sign : Chars.isAsciiAlpha x = false) (alpha : letters.all Chars.isAsciiAlpha = true) :
    front ++ x :: more ≠ letters ++ ':' :: rest := by
  intro same
  -- the colon would stand behind the other character, which is no letter, or in front of it
  rcases List.append_eq_append_iff.mp same with ⟨tail, rfl, e⟩ | ⟨tail, rfl, e⟩
  · cases tail with
    | nil => exact other (List.cons.inj e).1
    | cons y tail =>
      obtain ⟨rfl, -⟩ := List.cons.inj e
      have letter := List.all_eq_true.mp alpha x (List.mem_append_right _ List.mem_cons_self)
      rw [sign] at letter
      cases letter
  · cases tail with
    | nil => exact other (List.cons.inj e).1.symm
    | cons y tail =>
      obtain ⟨rfl, -⟩ := List.cons.inj e
      exact plain (List.mem_append_right _ List.mem_cons_self)

theorem Names.unhinted {value name letters : String} (named : Names value name)
    (alpha : Text.all Chars.isAsciiAlpha letters = true) (rest : List Char) :
    value.toList ≠ letters.toList ++ ':' :: rest := by
  intro chars
  rcases named with ⟨dashes, rfl | ⟨args, rfl, -⟩⟩
  · obtain ⟨more, dashes⟩ := startsWith_iff.mp dashes
    exact letters_colon_ne [] '-' ('-' :: more) (by decide) (by decide) (by decide) alpha
      (dashes.trans chars)
  · have call : ("var(" ++ args ++ ")").toList
        = ['v', 'a', 'r'] ++ '(' :: (args.toList ++ [')']) := by simp
    exact letters_colon_ne _ _ _ (by decide) (by decide) (by decide) alpha (call.symm.trans chars)

theorem splitHint_append {inner hint value : String} (h : splitHint inner = (hint, value)) :
    inner = hint ++ value ∧ IsHint hint := by
  unfold splitHint at h
  split at h
  · next letters rest cut =>
    split at h
    · next alpha =>
      obtain ⟨rfl, rfl⟩ := Prod.mk.inj h
      refine ⟨String.toList_inj.mp ?_, .inr ⟨letters, alpha, rfl⟩⟩
      rw [(Text.cut?_eq_some_iff.mp cut).1]
      simp
    · obtain ⟨rfl, rfl⟩ := Prod.mk.inj h
      exact ⟨String.empty_append.symm, .inl rfl⟩
  · obtain ⟨rfl, rfl⟩ := Prod.mk.inj h
    exact ⟨String.empty_append.symm, .inl rfl⟩

/-- in front of a value with a name, the hint is read as it was written -/
theorem splitHint_of_names {hint value name : String} (h : IsHint hint)
    (named : Names value name) : splitHint (hint ++ value) = (hint, value) := by
  rcases h with rfl | ⟨letters, alpha, rfl⟩
  · rw [String.empty_append, splitHint]
    split
    · next letters rest cut =>
      split
      · next alpha => exact absurd (Text.cut?_eq_some_iff.mp cut).1 (named.unhinted alpha _)
      · rfl
    · rfl
  · have letter : ':' ∉ letters.toList := fun colon =>
      absurd (List.all_eq_true.mp alpha ':' colon) (by decide)
    have cut : Text.cut? ':' (letters ++ ":" ++ value) = some (letters, value) :=
      Text.cut?_eq_some_iff.mpr ⟨by simp, letter⟩
    rw [splitHint, cut]
    exact if_pos alpha

/-! ## readings -/

/-- how a base with a bracketed value is read: what stands in front of the first bracket, the type
hint with its colon, the value, and the custom property that the value names -/
@[ext]
structure Reading where
  utility : String
  hint : String
  value : String
  name : String
  utility_open : '[' ∉ utility.toList
  isHint : IsHint hint
  names : Names value name

namespace Reading

def base (r : Reading) : String := r.utility ++ "[" ++ r.hint ++ r.value ++ "]"

def short (r : Reading) : String := r.utility ++ "(" ++ r.hint ++ r.name ++ ")"

theorem cut?_base (r : Reading) :
    Text.cut? '[' r.base = some (r.utility, r.hint ++ r.value ++ "]") :=
  Text.cut?_eq_some_iff.mpr ⟨by simp [base], r.utility_open⟩

theorem splitHint_inner (r : Reading) : splitHint (r.hint ++ r.value) = (r.hint, r.value) :=
  splitHint_of_names r.isHint r.names

/-- a base has one reading at most -/
theorem unique {r r' : Reading} (h : r.base = r'.base) : r = r' := by
  have cut := r.cut?_base
  rw [h, r'.cut?_base, Option.some.injEq, Prod.mk.injEq] at cut
  obtain ⟨utility, rest⟩ := cut
  have inner : r'.hint ++ r'.value = r.hint ++ r.value := (String.append_left_inj "]").mp rest
  have parts := r.splitHint_inner
  rw [← inner, r'.splitHint_inner, Prod.mk.injEq] at parts
  have named := customProperty?_eq_some_iff.mpr r.names
  rw [← parts.2, customProperty?_eq_some_iff.mpr r'.names, Option.some.injEq] at named
  exact Reading.ext utility.symm parts.1.symm parts.2.symm named.symm

end Reading

theorem variableShorthand?_eq_some_iff {base short : String} :
    variableShorthand? base = some short ↔ ∃ r : Reading, r.base = base ∧ r.short = short := by
  constructor
  · intro h
    simp only [variableShorthand?, Option.bind_eq_bind, Option.bind_eq_some_iff, Option.pure_def,
      Option.some.injEq, Prod.exists] at h
    obtain ⟨utility, rest, cut, inner, closed, name, named, written⟩ := h
    obtain ⟨whole, unbracketed⟩ := Text.cut?_eq_some_iff.mp cut
    rcases parts : splitHint inner with ⟨hint, value⟩
    rw [parts] at named written
    obtain ⟨rfl, isHint⟩ := splitHint_append parts
    refine ⟨⟨utility, hint, value, name, unbracketed, isHint,
      customProperty?_eq_some_iff.mp named⟩, ?_, written⟩
    rw [Reading.base, ← String.toList_inj, whole, Text.dropSuffix?_eq_some_iff.mp closed]
    simp
  · rintro ⟨r, rfl, rfl⟩
    simp only [variableShorthand?, r.cut?_base, Text.dropSuffix?_eq_some_iff.mpr rfl, r.splitHint_inner,
      customProperty?_eq_some_iff.mpr r.names, Option.bind_eq_bind, Option.bind_some]
    rfl

/-! ## rewritten classes -/

/-- the class ends with a bracket and is rewritten into one that ends with a parenthesis -/
def Parenthesized (cls result : String) : Prop :=
  modernize? cls = some result ∧ cls.toList.getLast? = some ']' ∧
    result.toList.getLast? = some ')'

theorem renames_last : ∀ e ∈ renames, e.1.toList.getLast? ≠ some ']' ∧
    e.2.toList.getLast? ∉ [none, some ')'] := by decide

theorem last_append (front : String) {s : String} {x : Char} (h : s.toList.getLast? = some x) :
    (front ++ s).toList.getLast? = some x := by
  rw [String.toList_append, List.getLast?_append, h, Option.some_or]

theorem last_short (r : Reading) : r.short.toList.getLast? = some ')' :=
  last_append (r.utility ++ "(" ++ r.hint ++ r.name) (by decide)

theorem last_base (r : Reading) : r.base.toList.getLast? = some ']' :=
  last_append (r.utility ++ "[" ++ r.hint ++ r.value) (by decide)

theorem isOpacityUtility_of_last {base : String} {x : Char} (h : base.toList.getLast? = some x)
    (other : Chars.isAsciiDigit x = false) : isOpacityUtility base = false := by
  rw [isOpacityUtility, List.any_eq_false]
  intro u _ opacity
  split at opacity
  · next n found =>
    obtain rfl := Text.dropPrefix?_eq_some_iff.mp found
    rw [Bool.and_eq_true, decide_eq_true_iff] at opacity
    obtain ⟨filled, digits⟩ := opacity
    have last : n.toList.getLast? = some x := by
      rw [String.toList_append, List.getLast?_append_of_ne_nil _ fun e => filled
        (String.toList_inj.mp e)] at h
      exact h
    have digit := List.all_eq_true.mp digits x (List.mem_of_getLast? last)
    rw [other] at digit
    cases digit
  · exact nomatch opacity

/-- a base with a reading is rewritten to the short form of it -/
theorem modernizeBase?_base (r : Reading) : modernizeBase? r.base = some r.short := by
  have renamed : renames.lookup r.base = none := Option.eq_none_iff_forall_ne_some.mpr
    fun new found => (renames_last _ (mem_renames found)).1 (last_base r)
  rw [modernizeBase?, renamed, isOpacityUtility_of_last (last_base r) (by decide),
    variableShorthand?_eq_some_iff.mpr ⟨r, rfl, rfl⟩]
  rfl

theorem last_trackList {base : String} {x : Char} (h : base.toList.getLast? = some x)
    (other : x ≠ ',') : (Text.replaceChar ',' "_" base).toList.getLast? = some x := by
  rw [toList_replaceComma, List.getLast?_map, h, Option.map_some, if_neg other]

/-- no other rewriting ends with a parenthesis where there was a bracket -/
theorem reading_of_modernizeBase? {base result : String} (front : String)
    (h : modernizeBase? base = some result) (before : base.toList.getLast? = some ']')
    (behind : (front ++ result).toList.getLast? = some ')') :
    ∃ r : Reading, r.base = base ∧ r.short = result := by
  -- each of the other rewritings has a last character of its own
  have other {x : Char} (last : result.toList.getLast? = some x) (hx : x ≠ ')') : False :=
    hx (Option.some.inj ((last_append front last).symm.trans behind))
  cases rewriting_of_modernizeBase? h with
  | renamed found =>
    have plain := (renames_last _ found).2
    cases last : result.toList.getLast? with
    | none => exact absurd (last ▸ List.mem_cons_self) plain
    | some x =>
      refine (other last fun same => plain ?_).elim
      rw [last, same]
      exact List.mem_cons_of_mem _ (List.mem_singleton_self _)
  | parenthesized found => exact variableShorthand?_eq_some_iff.mp found
  | tracks => exact (other (last_trackList before (by decide)) (by decide)).elim
  | marked => exact (other (last_append _ (x := '!') (by decide)) (by decide)).elim
  | same => exact (other before (by decide)).elim

theorem parenthesized_iff {cls result : String} : Parenthesized cls result ↔
    ∃ r : Reading, r.base = baseOf cls ∧ result = variantOf cls ++ r.short := by
  constructor
  · rintro ⟨written, before, behind⟩
    obtain ⟨new, hnew, rfl⟩ := Option.map_eq_some_iff.mp written
    -- a class without a base stays as it is, and ends with one character only
    have filled : baseOf cls ≠ "" := by
      intro empty
      have same : variantOf cls ++ new = cls := by
        rw [empty, show modernizeBase? "" = some "" by decide, Option.some.injEq] at hnew
        rw [← hnew, ← empty, variantOf_append_baseOf]
      rw [same, before] at behind
      exact absurd behind (by decide)
    have last : (baseOf cls).toList.getLast? = some ']' := by
      rw [toList_class, List.getLast?_append_of_ne_nil _ fun e => filled
        (String.toList_inj.mp e)] at before
      exact before
    obtain ⟨r, hr, rfl⟩ := reading_of_modernizeBase? (variantOf cls) hnew last behind
    exact ⟨r, hr, rfl⟩
  · rintro ⟨r, hr, rfl⟩
    refine ⟨?_, ?_, last_append _ (last_short r)⟩
    · rw [modernize?, ← hr, modernizeBase?_base]
      rfl
    · rw [← variantOf_append_baseOf cls, ← hr]
      exact last_append _ (last_base r)

/-! ## the values that are meant -/

/-- two dashes, and then letters, digits, dashes and underscores -/
def isPropertyName (name : String) : Bool :=
  match Text.dropPrefix? "--" name with
  | some rest =>
    rest ≠ "" && Text.all (fun c => Chars.isAsciiAlnum c || c == '-' || c == '_') rest
  | none => false

/-- at this depth, each parenthesis of the text finds the one it belongs to -/
def matched (depth : Nat) : List Char → Bool
  | [] => depth == 0
  | c :: cs =>
    if c = '(' then matched (depth + 1) cs
    else if c = ')' then 0 < depth && matched (depth - 1) cs
    else matched depth cs

/-- the value is a custom property, or one call of `var`, closed by the last character, with this
custom property as the first argument -/
def IsVariable (value name : String) : Prop :=
  isPropertyName name = true ∧ (value = name ∨ ∃ args, value = "var(" ++ args ++ ")" ∧
    matched 0 args.toList = true ∧ name = firstArgument args)

/-- `<utility>-[<hint>:<value>]` becomes `<utility>-(<hint>:<name>)`; there may be no hint -/
def Promised (cls result : String) : Prop :=
  ∃ utility hint value name, utility ≠ "" ∧ '[' ∉ utility.toList ∧
    IsHint hint ∧ hint ≠ ":" ∧ IsVariable value name ∧
    baseOf cls = utility ++ "-[" ++ hint ++ value ++ "]" ∧
    result = variantOf cls ++ (utility ++ "-(" ++ hint ++ name ++ ")")

/-- the reading of a class that is meant to be rewritten -/
def Reading.IsProper (r : Reading) : Prop :=
  (∃ utility, utility ≠ "" ∧ r.utility = utility ++ "-") ∧ r.hint ≠ ":" ∧ IsVariable r.value r.name

theorem IsVariable.names {value name : String} (h : IsVariable value name) : Names value name := by
  obtain ⟨named, written⟩ := h
  refine ⟨?_, written.imp_right fun ⟨args, hv, _, hn⟩ => ⟨args, hv, hn⟩⟩
  unfold isPropertyName at named
  split at named
  · next rest found =>
    rw [startsWith_iff, Text.dropPrefix?_eq_some_iff.mp found, String.toList_append]
    exact List.prefix_append ..
  · exact nomatch named

theorem dash_bracket (utility : String) : utility ++ "-" ++ "[" = utility ++ "-[" :=
  String.append_assoc.trans (congrArg (utility ++ ·) (by decide))

theorem dash_parenthesis (utility : String) : utility ++ "-" ++ "(" = utility ++ "-(" :=
  String.append_assoc.trans (congrArg (utility ++ ·) (by decide))

/-- what is promised is the short form of a proper reading -/
theorem promised_iff {cls result : String} : Promised cls result ↔
    ∃ r : Reading, r.IsProper ∧ r.base = baseOf cls ∧ result = variantOf cls ++ r.short := by
  constructor
  · rintro ⟨utility, hint, value, name, filled, opened, isHint, hinted, variable', hbase, rfl⟩
    refine ⟨⟨utility ++ "-", hint, value, name, by simp [opened], isHint, variable'.names⟩,
      ⟨⟨utility, filled, rfl⟩, hinted, variable'⟩, ?_, ?_⟩
    · rw [hbase, Reading.base, dash_bracket]
    · rw [Reading.short, dash_parenthesis]
  · rintro ⟨r, ⟨⟨utility, filled, dash⟩, hinted, variable'⟩, hbase, rfl⟩
    have opened : '[' ∉ utility.toList := fun h =>
      r.utility_open (dash ▸ String.toList_append ▸ List.mem_append_left _ h)
    refine ⟨utility, r.hint, r.value, r.name, filled, opened, r.isHint, hinted, variable', ?_, ?_⟩
    · rw [← hbase, Reading.base, dash, dash_bracket]
    · rw [Reading.short, dash, dash_parenthesis]

theorem promised_iff_isProper {cls : String} {r : Reading} (h : r.base = baseOf cls) :
    Promised cls (variantOf cls ++ r.short) ↔ r.IsProper := by
  rw [promised_iff]
  constructor
  · rintro ⟨r', proper, hr, -⟩
    rwa [Reading.unique (h.trans hr.symm)]
  · exact fun proper => ⟨r, proper, h, rfl⟩

/-- **The bracketed values that are written in parentheses.**  A class loses its brackets for
parentheses just if its base has a reading, and this is then written in the short form.  All values
that are meant are among them; and a class that is rewritten is one of these just if its reading is
proper: a utility and a dash stand in front of the bracket, a hint has letters, the custom property
has the characters of a name, and a call of `var` is closed by the last character only. -/
theorem parenthesized_forms (cls result : String) :
    (Parenthesized cls result ↔
      ∃ r : Reading, r.base = baseOf cls ∧ result = variantOf cls ++ r.short) ∧
    (Promised cls result → Parenthesized cls result) ∧
    ∀ r : Reading, r.base = baseOf cls → result = variantOf cls ++ r.short →
      (Promised cls result ↔ r.IsProper) := by
  refine ⟨parenthesized_iff, fun promised => ?_, fun r hr written => ?_⟩
  · obtain ⟨r, -, hr, written⟩ := promised_iff.mp promised
    exact parenthesized_iff.mpr ⟨r, hr, written⟩
  · rw [written]
    exact promised_iff_isProper hr

/-- a color with a hint and a fallback -/
theorem parenthesized_forms_ink :
    let cls := "md:text-[color:var(--ink,rgb(0,0,0))]"
    let result := "md:text-(color:--ink)"
    Promised cls result ∧ Parenthesized cls result ∧ ∃ r : Reading, r.base = baseOf cls ∧
      result = variantOf cls ++ r.short ∧ r.IsProper := by
  intro cls result
  have call : IsVariable "var(--ink,rgb(0,0,0))" "--ink" :=
    ⟨by decide, .inr ⟨"--ink,rgb(0,0,0)", by decide, by decide, by decide⟩⟩
  have promised : Promised cls result :=
    ⟨"text", "color:", _, _, by decide, by decide, .inr ⟨"color", by decide, by decide⟩,
      by decide, call, by decide, by decide⟩
  have rewritten := (parenthesized_forms cls result).2.1 promised
  obtain ⟨r, hr, written⟩ := (parenthesized_forms cls result).1.mp rewritten
  exact ⟨promised, rewritten, r, hr, written,
    ((parenthesized_forms cls result).2.2 r hr written).mp promised⟩

/-- a declaration in brackets, and a sum of two variables, are rewritten like one variable -/
theorem parenthesized_not_promised :
    (Parenthesized "[--gap:4px]" "(--gap:4px)" ∧ ¬ Promised "[--gap:4px]" "(--gap:4px)") ∧
    (Parenthesized "p-[var(--a)_+_var(--b)]" "p-(--a)_+_var(--b)" ∧
      ¬ Promised "p-[var(--a)_+_var(--b)]" "p-(--a)_+_var(--b)") := by
  let gap : Reading :=
    ⟨"", "", "--gap:4px", "--gap:4px", by decide, .inl rfl, by decide, .inl rfl⟩
  let sum : Reading :=
    ⟨"p-", "", "var(--a)_+_var(--b)", "--a)_+_var(--b", by decide, .inl rfl, by decide,
      .inr ⟨"--a)_+_var(--b", by decide, by decide⟩⟩
  have gapBase : gap.base = baseOf "[--gap:4px]" := by decide
  have sumBase : sum.base = baseOf "p-[var(--a)_+_var(--b)]" := by decide
  refine ⟨⟨parenthesized_iff.mpr ⟨gap, gapBase, by decide⟩, fun promised => ?_⟩,
    ⟨parenthesized_iff.mpr ⟨sum, sumBase, by decide⟩, fun promised => ?_⟩⟩
  · have proper : gap.IsProper := (promised_iff_isProper gapBase).mp promised
    exact absurd proper.2.2.1 (by decide)
  · have proper : sum.IsProper := (promised_iff_isProper sumBase).mp promised
    exact absurd proper.2.2.1 (by decide)

end Handoff.ClassList
