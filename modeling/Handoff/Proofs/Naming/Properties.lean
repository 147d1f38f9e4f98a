import Handoff.Proofs.Text.Members
import Handoff.Proofs.Text.Numerals
import Handoff.Variables
import Mathlib.Data.List.Chain

/-!
# The names of custom properties

Custom properties are named for variables, or made from their ids, and in both cases they are
written with lower-case letters, digits, dashes and underscores.  All ids with one short form, and
the short form itself, give the same property.

* `IsProperty`                 what properties are written with;
* `isProperty_cssName`, `isProperty_derivedProperty`   they are, for every name and every id;
* `IsSanitized`, `cssName_eq_self_iff`   the names that stay as they are;
* `shortIdChars?_eq_some`      a short form is a pair of numbers, and `shortId?_short` its own one;
* `derivedProperty_congr`      ids with one short form have one property;
* `property_names`             what holds of every property, and of every name.
-/

namespace Handoff
open Chars

/-- the characters of custom properties -/
def IsPropertyChar (c : Char) : Prop :=
  isAsciiLower c = true ∨ isAsciiDigit c = true ∨ c = '-' ∨ c = '_'

instance (c : Char) : Decidable (IsPropertyChar c) := inferInstanceAs (Decidable (_ ∨ _))

/-- a text of such characters -/
def IsProperty (s : String) : Prop := ∀ c ∈ s.toList, IsPropertyChar c

instance (s : String) : Decidable (IsProperty s) := List.decidableBAll IsPropertyChar s.toList

theorem isPropertyChar_toLower {c : Char} (h : isAsciiAlnum c = true) :
    IsPropertyChar c.toLower := by
  rcases toLower_of_alnum h with lower | ⟨digit, same⟩
  · exact .inl lower
  · rw [same]
    exact .inr (.inl digit)

/-! ## names of variables -/

/-- no two dashes stand side by side -/
def SingleDashes (cs : List Char) : Prop := cs.IsChain fun c d => c = '-' → d ≠ '-'

/-- texts as the names of custom properties are written: dashes stand one at a time, and between
other characters -/
structure IsSanitized (s : String) : Prop where
  chars : IsProperty s
  single : SingleDashes s.toList
  first : '-' ∉ s.toList.head?
  last : '-' ∉ s.toList.getLast?

namespace Naming

theorem mem_cssNameFrom {cs : List Char} : ∀ {dash : Bool}, ∀ c ∈ cssNameFrom dash cs,
    IsPropertyChar c := by
  induction cs with
  | nil => exact fun c hc => absurd hc List.not_mem_nil
  | cons d cs ih =>
    intro dash c hc
    unfold cssNameFrom at hc
    split at hc
    · split at hc
      · exact ih c hc
      · rcases List.mem_cons.mp hc with rfl | hc
        · decide
        · exact ih c hc
    · split at hc
      · next kept =>
        rcases List.mem_cons.mp hc with rfl | hc
        · rcases Bool.or_eq_true_iff.mp kept with alnum | line
          · exact isPropertyChar_toLower alnum
          · rw [eq_of_beq line]
            decide
        · exact ih c hc
      · exact ih c hc

theorem isProperty_cssName (name : String) : IsProperty (cssName name) := by
  rw [IsProperty, cssName, Text.toList_onChars]
  exact fun c hc => mem_cssNameFrom c (mem_of_mem_trimBy hc)

/-- the dash that was just written, if one was -/
def written (dash : Bool) : List Char := if dash then ['-'] else []

theorem singleDashes_cons {c : Char} {cs : List Char} (dash : Bool) (other : c ≠ '-') :
    SingleDashes (written dash ++ c :: cs) ↔ SingleDashes (c :: cs) := by
  cases dash with
  | false => rfl
  | true =>
    refine List.isChain_cons.trans (and_iff_right ?_)
    rintro d hd - rfl
    exact other (Option.some.inj hd)

theorem toLower_ne_dash {c : Char} (kept : (isAsciiAlnum c || c == '_') = true) :
    c.toLower ≠ '-' := by
  intro dash
  rcases Bool.or_eq_true_iff.mp kept with alnum | line
  · exact ne_of_alnum (isAsciiAlnum_toLower alnum) (by decide) dash
  · rw [eq_of_beq line] at dash
    cases dash

/-- the characters of properties are written as they are, but for dashes -/
theorem stays_of_isPropertyChar {c : Char} (h : IsPropertyChar c) (noDash : c ≠ '-') :
    (isAsciiAlnum c || c == '_') = true ∧ c.toLower = c ∧
      (c == '/' || c == ' ' || c == '\t' || c == '-') = false := by
  have kept : (isAsciiAlnum c || c == '_') = true ∧ c.toLower = c := by
    rcases h with lower | digit | dash | rfl
    · rw [isAsciiAlnum_of_lower lower]
      exact ⟨rfl, toLower_of_lower lower⟩
    · rw [isAsciiAlnum_of_digit digit]
      exact ⟨rfl, toLower_of_digit digit⟩
    · exact absurd dash noDash
    · decide
  refine ⟨kept.1, kept.2, ?_⟩
  have other {d : Char} (hd : (isAsciiAlnum d || d == '_') = false) : (c == d) = false := by
    refine beq_false_of_ne ?_
    rintro rfl
    rw [kept.1] at hd
    cases hd
  rw [other (d := '/') (by decide), other (d := ' ') (by decide), other (d := '\t') (by decide),
    beq_false_of_ne noDash]
  rfl

/-- dashes are written one at a time, also behind the one that was just written -/
theorem singleDashes_cssNameFrom (cs : List Char) : ∀ dash,
    SingleDashes (written dash ++ cssNameFrom dash cs) := by
  induction cs with
  | nil =>
    intro dash
    cases dash with
    | false => exact .nil
    | true => exact .singleton '-'
  | cons c cs ih =>
    intro dash
    rw [cssNameFrom]
    split
    · cases dash <;> exact ih true
    split
    · next noDash kept =>
      have other : c.toLower ≠ '-' := toLower_ne_dash kept
      rw [singleDashes_cons dash other]
      refine List.isChain_cons.mpr ⟨fun d _ same => absurd same other, ih false⟩
    · exact ih dash

theorem isSanitized_cssName (name : String) : IsSanitized (cssName name) := by
  obtain ⟨part, first, last⟩ := trimBy_spec (· == '-') (cssNameFrom false name.toList)
  refine ⟨isProperty_cssName name, ?_, ?_, ?_⟩ <;> rw [cssName, Text.toList_onChars]
  · exact List.IsChain.infix (singleDashes_cssNameFrom name.toList false) part
  · exact fun dash => absurd (first '-' dash) (by decide)
  · exact fun dash => absurd (last '-' dash) (by decide)

/-- what is written with the characters of properties, and with dashes one at a time, stays -/
theorem cssNameFrom_eq_self {cs : List Char} (chars : ∀ c ∈ cs, IsPropertyChar c) :
    ∀ dash, SingleDashes (written dash ++ cs) → cssNameFrom dash cs = cs := by
  induction cs with
  | nil => exact fun _ _ => rfl
  | cons c cs ih =>
    intro dash single
    obtain ⟨hc, later⟩ := List.forall_mem_cons.mp chars
    rw [cssNameFrom]
    by_cases isDash : c = '-'
    · subst isDash
      cases dash with
      | false => exact congrArg (List.cons '-') (ih later true single)
      | true => exact absurd rfl ((List.isChain_cons.mp single).1 '-' rfl rfl)
    · obtain ⟨kept, lower, others⟩ := stays_of_isPropertyChar hc isDash
      have rest : SingleDashes cs :=
        (List.isChain_cons.mp ((singleDashes_cons dash isDash).mp single)).2
      rw [others, if_neg Bool.false_ne_true, if_pos kept, lower, ih later false rest]

/-- **Names are sanitized once**: only those that are sanitized already stay as they are. -/
theorem cssName_eq_self_iff {s : String} : cssName s = s ↔ IsSanitized s := by
  refine ⟨fun same => same ▸ isSanitized_cssName s, fun h => ?_⟩
  have stays := cssNameFrom_eq_self h.chars false h.single
  have ends {o : Option Char} (ho : '-' ∉ o) : o.all fun c => !(c == '-') := by
    cases o with
    | none => rfl
    | some c =>
      have other : c ≠ '-' := fun same => ho (same ▸ rfl)
      exact (Bool.not_eq_true' _).mpr (beq_false_of_ne other)
  have whole : trimBy (· == '-') ([] ++ (s.toList ++ [])) = s.toList :=
    trimBy_around (List.forall_mem_nil _) (List.forall_mem_nil _) (ends h.first) (ends h.last)
  rw [List.nil_append, List.append_nil] at whole
  rw [cssName, Text.onChars, cssNameChars, stays, whole, String.ofList_toList]

end Naming

/-! ## ids -/

/-- a short form is two numbers with a colon between them -/
theorem shortIdChars?_eq_some {cs short : List Char} (h : shortIdChars? cs = some short) :
    ∃ left right, short = left ++ ':' :: right ∧
      isDecimalNumber left = true ∧ isDecimalNumber right = true := by
  unfold shortIdChars? at h
  dsimp only at h
  obtain ⟨⟨left, right⟩, hcut, h⟩ := Option.bind_eq_some_iff.mp h
  dsimp only at h
  split at h
  · next numbers =>
    obtain rfl := Option.some.inj h
    exact ⟨left, right, (cut?_eq_some hcut).1, Bool.and_eq_true_iff.mp numbers⟩
  · cases h

theorem isAsciiDigit_of_mem_decimal {cs : List Char} (h : isDecimalNumber cs = true) :
    ∀ c ∈ cs, isAsciiDigit c = true := List.all_eq_true.mp (Bool.and_eq_true_iff.mp h).2

section
variable {left right : List Char}

theorem mem_short (hl : isDecimalNumber left = true) (hr : isDecimalNumber right = true) :
    ∀ c ∈ left ++ ':' :: right, c = ':' ∨ isAsciiDigit c = true := by
  have digits {cs : List Char} (h : isDecimalNumber cs = true) :
      ∀ c ∈ cs, c = ':' ∨ isAsciiDigit c = true := fun c hc =>
    .inr (isAsciiDigit_of_mem_decimal h c hc)
  exact List.forall_mem_append.mpr
    ⟨digits hl, List.forall_mem_cons.mpr ⟨.inl rfl, digits hr⟩⟩

/-- two numbers with a colon between them are their own short form -/
theorem shortIdChars?_numbers (hl : isDecimalNumber left = true)
    (hr : isDecimalNumber right = true) :
    shortIdChars? (left ++ ':' :: right) = some (left ++ ':' :: right) := by
  have chars := mem_short hl hr
  have whole : splitWhere (fun c => c == '/' || c == ' ') (left ++ ':' :: right)
      = [left ++ ':' :: right] := by
    refine splitWhere_alone fun c hc => ?_
    rcases chars c hc with rfl | digit
    · rfl
    · have slash : c ≠ '/' := by rintro rfl; exact absurd digit (by decide)
      have blank : c ≠ ' ' := by rintro rfl; exact absurd digit (by decide)
      rw [beq_false_of_ne slash, beq_false_of_ne blank]
      rfl
  have unled : dropPrefix? "VariableID:".toList (left ++ ':' :: right) = none := by
    refine Option.eq_none_iff_forall_ne_some.mpr fun rest found => ?_
    have front : 'V' ∈ left ++ ':' :: right := by
      rw [dropPrefix?_eq_some.mp found]
      exact List.mem_append_left _ (by decide)
    rcases chars 'V' front with colon | digit
    · cases colon
    · exact absurd digit (by decide)
  have colon : ':' ∉ left := fun h => absurd (isAsciiDigit_of_mem_decimal hl ':' h) (by decide)
  have cut : cut? ':' (left ++ ':' :: right) = some (left, right) :=
    cut?_eq_some_iff.mpr ⟨rfl, colon⟩
  unfold shortIdChars?
  simp only [whole, List.getLast?_singleton, Option.getD_some, unled, Option.getD_none, cut, hl, hr,
    Bool.and_self, if_true, Option.bind_eq_bind, Option.bind_some]

end

/-- a short form is its own short form -/
theorem shortId?_short {id short : String} (h : shortId? id = some short) :
    shortId? short = some short := by
  obtain ⟨cs, hcs, rfl⟩ := Option.map_eq_some_iff.mp h
  obtain ⟨left, right, rfl, hl, hr⟩ := shortIdChars?_eq_some hcs
  rw [shortId?, String.toList_ofList, shortIdChars?_numbers hl hr]
  rfl

/-- ids with one short form have one property -/
theorem derivedProperty_congr {id id' short : String} (h : shortId? id = some short)
    (h' : shortId? id' = some short) : derivedProperty id = derivedProperty id' := by
  unfold derivedProperty
  rw [h, h']

theorem isProperty_derivedProperty (id : String) : IsProperty (derivedProperty id) := by
  have lead : IsProperty "var-" := by decide
  unfold IsProperty derivedProperty
  rw [String.toList_append]
  refine List.forall_mem_append.mpr ⟨lead, ?_⟩
  split
  · next short found =>
    obtain ⟨cs, hcs, rfl⟩ := Option.map_eq_some_iff.mp found
    obtain ⟨left, right, rfl, hl, hr⟩ := shortIdChars?_eq_some hcs
    rw [Text.replaceChar, Text.toList_onChars]
    intro c hc
    rcases mem_replaceChar.mp hc with ⟨-, hc⟩ | ⟨hc, ne⟩
    · rw [List.mem_singleton.mp hc]
      decide
    · rw [String.toList_ofList] at hc
      exact .inr (.inl ((mem_short hl hr c hc).resolve_left ne))
  · rw [String.toList_ofList]
    have digit : ∀ d < 16, IsPropertyChar (Nat.digitChar d) := by decide
    exact forall_toDigits (by decide) digit _

theorem derivedProperty_ne_empty (id : String) : derivedProperty id ≠ "" := by
  intro empty
  have lead := (String.append_eq_empty_iff.mp empty).1
  exact absurd lead (by decide)

theorem Variables.isProperty_customProperty (vs : Variables) (id : String) :
    IsProperty (vs.customProperty id) := by
  unfold Variables.customProperty
  dsimp only
  split
  · exact isProperty_derivedProperty id
  · next named =>
    cases h : vs.lookup? id with
    | none =>
      rw [h] at named
      exact absurd rfl named
    | some v => exact Naming.isProperty_cssName v.name

theorem Variables.customProperty_ne_empty (vs : Variables) (id : String) :
    vs.customProperty id ≠ "" := by
  unfold Variables.customProperty
  dsimp only
  split
  · exact derivedProperty_ne_empty id
  · assumption

/-- **The names of custom properties.**  The property of an id is never empty, and it is written with
lower-case letters, digits, dashes and underscores, whatever the table holds; and whatever a variable
is called, its name is sanitized, so that it does not change any more. -/
theorem property_names :
    (∀ (vs : Variables) id, vs.customProperty id ≠ "" ∧ IsProperty (vs.customProperty id)) ∧
    ∀ name, IsSanitized (Naming.cssName name) ∧
      Naming.cssName (Naming.cssName name) = Naming.cssName name :=
  ⟨fun vs id => ⟨vs.customProperty_ne_empty id, vs.isProperty_customProperty id⟩, fun name =>
    ⟨Naming.isSanitized_cssName name, Naming.cssName_eq_self_iff.mpr (Naming.isSanitized_cssName name)⟩⟩

end Handoff
