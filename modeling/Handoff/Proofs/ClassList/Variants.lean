import Handoff.ClassList.Basic

/-!
# Variant and base

A class is cut behind its last colon at depth zero; what stands in front of the cut is the variant, and
the rest is the base.  Brackets need not be balanced.  The depth is zero at the cut, so that it is
counted alike from there on and from the beginning of the base; what a text has of brackets and colons
can be told of its parts one after the other.

* `Colonless`               a text without a colon at depth zero;
* `cutVariant?_eq_none_iff`, `cutVariant?_eq_some_iff`   whether a text is cut, and where;
* `inert`                   characters with which the cut has nothing to do;
* `IsVariant`               what can stand in front of a base;
* `splitVariant_eq_iff`     the parts of a class are told by what they are;
* `splitVariant_behind`     behind a variant, a text is cut as it is by itself;
* `splitVariant_replaced`   so a class whose base is replaced keeps its variant.
-/

namespace Handoff.ClassList

/-! ## texts without a colon -/

/-- no colon of the text is at depth zero -/
def Colonless (depth : Nat) (cs : List Char) : Prop :=
  ∀ front rest, cs = front ++ ':' :: rest → front.foldl depthAfter depth ≠ 0

theorem colonless_nil (depth : Nat) : Colonless depth [] := by
  intro front rest e
  cases front <;> cases e

theorem colonless_cons {depth : Nat} {c : Char} {cs : List Char} : Colonless depth (c :: cs) ↔
    (c = ':' → depth ≠ 0) ∧ Colonless (depthAfter depth c) cs := by
  constructor
  · intro h
    refine ⟨fun colon => h [] cs (by rw [colon, List.nil_append]), fun front rest e => ?_⟩
    exact h (c :: front) rest (by rw [e, List.cons_append])
  · rintro ⟨first, later⟩ front rest e
    cases front with
    | nil => exact first (List.cons.inj e).1
    | cons d front =>
      obtain ⟨rfl, tail⟩ := List.cons.inj (e.trans (List.cons_append ..))
      exact later front rest tail

theorem colonless_append {depth : Nat} {v w : List Char} : Colonless depth (v ++ w) ↔
    Colonless depth v ∧ Colonless (v.foldl depthAfter depth) w := by
  induction v generalizing depth with
  | nil => exact (and_iff_right (colonless_nil depth)).symm
  | cons c v ih => rw [List.cons_append, colonless_cons, ih, colonless_cons, and_assoc]; rfl

theorem colonless_of_not_mem {cs : List Char} (h : ':' ∉ cs) (depth : Nat) : Colonless depth cs := by
  rintro front rest rfl
  exact absurd (List.mem_append_right front List.mem_cons_self) h

/-- a rewriting of characters that leaves colons and brackets alone -/
theorem colonless_map {f : Char → Char} (colon : ∀ c, f c = ':' ↔ c = ':')
    (bracket : ∀ depth c, depthAfter depth (f c) = depthAfter depth c) {depth : Nat}
    {cs : List Char} : Colonless depth (cs.map f) ↔ Colonless depth cs := by
  induction cs generalizing depth with
  | nil => rfl
  | cons c cs ih => rw [List.map_cons, colonless_cons, colonless_cons, colon, bracket, ih]

/-! ## the cut -/

/-- a text without a colon at depth zero is in one piece -/
theorem cutVariant?_eq_none_iff {depth : Nat} {cs : List Char} :
    cutVariant? depth cs = none ↔ Colonless depth cs := by
  induction cs generalizing depth with
  | nil => exact iff_of_true rfl (colonless_nil depth)
  | cons c cs ih =>
    rw [colonless_cons, ← ih, cutVariant?]
    cases cutVariant? (depthAfter depth c) cs with
    | none => simp
    | some p => simp

/-- any other is cut behind the last one -/
theorem cutVariant?_eq_some_iff {depth : Nat} {cs v b : List Char} :
    cutVariant? depth cs = some (v, b) ↔
      v ++ b = cs ∧ (∃ front, v = front ++ [':'] ∧ front.foldl depthAfter depth = 0) ∧
        Colonless 0 b := by
  constructor
  · intro h
    refine ⟨cutVariant?_append h, ?_⟩
    induction cs generalizing depth v with
    | nil => cases h
    | cons c cs ih =>
      unfold cutVariant? at h
      split at h
      · next v' b' later =>
        obtain ⟨rfl, rfl⟩ := Prod.mk.inj (Option.some.inj h)
        obtain ⟨⟨front, rfl, zero⟩, bare⟩ := ih later
        exact ⟨⟨c :: front, rfl, zero⟩, bare⟩
      · next whole =>
        split at h
        · next here =>
          obtain ⟨rfl, rfl⟩ := here
          obtain ⟨rfl, rfl⟩ := Prod.mk.inj (Option.some.inj h)
          exact ⟨⟨[], rfl, rfl⟩, cutVariant?_eq_none_iff.mp whole⟩
        · cases h
  · rintro ⟨rfl, ⟨front, rfl, zero⟩, bare⟩
    induction front generalizing depth with
    | nil =>
      obtain rfl : depth = 0 := zero
      have whole : cutVariant? (depthAfter 0 ':') b = none := cutVariant?_eq_none_iff.mpr bare
      rw [List.nil_append, List.singleton_append, cutVariant?, whole]
      exact if_pos ⟨rfl, rfl⟩
    | cons c front ih =>
      rw [List.cons_append, List.cons_append, cutVariant?, ih zero]

/-! ## characters that do not matter -/

/-- a character that a variant cannot end at, and that leaves the depth as it is -/
def inert (c : Char) : Bool := c != ':' && c != '[' && c != ']'

theorem inert_spec {c : Char} (h : inert c = true) :
    c ≠ ':' ∧ ∀ depth, depthAfter depth c = depth := by
  rw [inert, Bool.and_eq_true, Bool.and_eq_true, bne_iff_ne, bne_iff_ne, bne_iff_ne] at h
  obtain ⟨⟨colon, opening⟩, closing⟩ := h
  exact ⟨colon, fun depth => by rw [depthAfter, if_neg opening, if_neg closing]⟩

theorem colonless_inert {cs : List Char} (h : cs.all inert = true) (depth : Nat) (b : List Char) :
    Colonless depth (cs ++ b) ↔ Colonless depth b := by
  induction cs with
  | nil => rfl
  | cons c cs ih =>
    rw [List.all_cons, Bool.and_eq_true] at h
    obtain ⟨other, stays⟩ := inert_spec h.1
    rw [List.cons_append, colonless_cons, stays, ih h.2]
    exact and_iff_right fun colon => absurd colon other

theorem cutVariant?_inert {cs : List Char} (h : cs.all inert = true) (b : List Char) :
    cutVariant? 0 (cs ++ b) = none ↔ cutVariant? 0 b = none := by
  rw [cutVariant?_eq_none_iff, cutVariant?_eq_none_iff, colonless_inert h]

theorem cutVariant?_of_inert {cs : List Char} (h : cs.all inert = true) :
    cutVariant? 0 cs = none := by
  rw [← List.append_nil cs, cutVariant?_inert h]
  rfl

/-! ## the parts of a class -/

/-- nothing, or a text that ends with a colon at depth zero -/
def IsVariant (v : String) : Prop :=
  v = "" ∨ ∃ front, v = front ++ ":" ∧ front.toList.foldl depthAfter 0 = 0

theorem isVariant_empty : IsVariant "" := .inl rfl

/-- brackets that a variant opens it closes, but for stray ones -/
theorem IsVariant.closed {v : String} (h : IsVariant v) : v.toList.foldl depthAfter 0 = 0 := by
  rcases h with rfl | ⟨front, rfl, zero⟩
  · rfl
  · rw [String.toList_append, List.foldl_append, zero]
    rfl

theorem IsVariant.last {v : String} (h : IsVariant v) :
    v.toList = [] ∨ v.toList.getLast? = some ':' := by
  rcases h with rfl | ⟨front, rfl, -⟩
  · exact .inl rfl
  · rw [String.toList_append]
    exact .inr List.getLast?_concat

theorem IsVariant.append {v w : String} (hv : IsVariant v) (hw : IsVariant w) :
    IsVariant (v ++ w) := by
  rcases hw with rfl | ⟨front, rfl, zero⟩
  · rwa [String.append_empty]
  · refine .inr ⟨v ++ front, (String.append_assoc ..).symm, ?_⟩
    rw [String.toList_append, List.foldl_append, hv.closed, zero]

/-- a class is cut into a variant and a base without one, and in one way only -/
theorem splitVariant_eq_iff {cls v b : String} :
    splitVariant cls = (v, b) ↔ v ++ b = cls ∧ IsVariant v ∧ Colonless 0 b.toList := by
  rw [splitVariant, splitVariantChars, Text.pair, Prod.mk.injEq]
  constructor
  · rintro ⟨rfl, rfl⟩
    rw [String.toList_ofList, ← String.toList_inj, String.toList_append, String.toList_ofList,
      String.toList_ofList]
    cases h : cutVariant? 0 cls.toList with
    | none => exact ⟨rfl, isVariant_empty, cutVariant?_eq_none_iff.mp h⟩
    | some p =>
      obtain ⟨v, b⟩ := p
      obtain ⟨whole, ⟨front, ends, zero⟩, bare⟩ := cutVariant?_eq_some_iff.mp h
      refine ⟨whole, .inr ⟨String.ofList front, ?_, ?_⟩, bare⟩
      · rw [← String.toList_inj, String.toList_append, String.toList_ofList, String.toList_ofList]
        exact ends
      · rw [String.toList_ofList]
        exact zero
  · rintro ⟨rfl, variant, bare⟩
    rcases variant with rfl | ⟨front, rfl, zero⟩
    · rw [String.empty_append, cutVariant?_eq_none_iff.mpr bare, Option.getD_none,
        String.ofList_toList]
      exact ⟨rfl, rfl⟩
    · have cut : cutVariant? 0 (front ++ ":" ++ b).toList = some ((front ++ ":").toList, b.toList) :=
        cutVariant?_eq_some_iff.mpr
          ⟨String.toList_append.symm, ⟨front.toList, String.toList_append, zero⟩, bare⟩
      rw [cut, Option.getD_some, String.ofList_toList, String.ofList_toList]
      exact ⟨rfl, rfl⟩

theorem toList_variantOf (cls : String) :
    (variantOf cls).toList = (splitVariantChars cls.toList).1 :=
  String.toList_ofList

theorem toList_baseOf (cls : String) : (baseOf cls).toList = (splitVariantChars cls.toList).2 :=
  String.toList_ofList

theorem toList_class (cls : String) :
    cls.toList = (variantOf cls).toList ++ (baseOf cls).toList := by
  rw [toList_variantOf, toList_baseOf, splitVariantChars_append]

section
variable (cls : String)

theorem variantOf_append_baseOf : variantOf cls ++ baseOf cls = cls :=
  (splitVariant_eq_iff.mp rfl).1

theorem isVariant_variantOf : IsVariant (variantOf cls) := (splitVariant_eq_iff.mp rfl).2.1

theorem colonless_baseOf : Colonless 0 (baseOf cls).toList := (splitVariant_eq_iff.mp rfl).2.2

theorem cutVariant?_baseOf : cutVariant? 0 (baseOf cls).toList = none :=
  cutVariant?_eq_none_iff.mpr (colonless_baseOf cls)

/-- behind a variant a text is cut as it is by itself -/
theorem splitVariant_behind (base : String) : splitVariant (variantOf cls ++ base)
    = (variantOf cls ++ variantOf base, baseOf base) := by
  refine splitVariant_eq_iff.mpr ⟨?_, ?_, colonless_baseOf base⟩
  · rw [String.append_assoc, variantOf_append_baseOf]
  · exact (isVariant_variantOf cls).append (isVariant_variantOf base)

/-- a class whose base is replaced keeps its variant -/
theorem splitVariant_replaced {base : String} (h : cutVariant? 0 base.toList = none) :
    splitVariant (variantOf cls ++ base) = (variantOf cls, base) :=
  splitVariant_eq_iff.mpr ⟨rfl, isVariant_variantOf cls, cutVariant?_eq_none_iff.mp h⟩

end

theorem variantOf_eq_empty_iff_colonless {cls : String} :
    variantOf cls = "" ↔ Colonless 0 cls.toList := by
  constructor
  · intro plain
    have whole := variantOf_append_baseOf cls
    rw [plain, String.empty_append] at whole
    exact whole ▸ colonless_baseOf cls
  · intro bare
    have cut : splitVariant cls = ("", cls) :=
      splitVariant_eq_iff.mpr ⟨String.empty_append, isVariant_empty, bare⟩
    rw [variantOf, cut]

theorem variantOf_eq_empty_iff {cls : String} :
    variantOf cls = "" ↔ cutVariant? 0 cls.toList = none := by
  rw [variantOf_eq_empty_iff_colonless, cutVariant?_eq_none_iff]

end Handoff.ClassList
