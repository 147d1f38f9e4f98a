import Handoff.Proofs.Json.Spelling
import Handoff.Rule.Basic

/-!
# Rules and the spelling of numbers

A rule compares the values that it selects with the attributes of a node.  Two numbers are compared
by value, whatever their spelling, but numbers inside of lists and objects have to be spelled alike
too.  So a rule may match a node and no longer match it when 8.0 is written for an 8 somewhere
inside of an attribute.

* `matchesBy`               matching by any comparison of values;
* `matchesBy_respelled`     a comparison that does not see the spelling does not see it in a match;
* `isMatch_eq`              the comparison of rules: by value, and literally for numbers inside;
* `isMatch_respelled`       which matches do not depend on the spelling of numbers.
-/

namespace Handoff.Rule
open Json

/-- the values that an expected value stands for -/
def choices : (expected actual : Json) → List Json
  | .arr options, .arr _ => [.arr options]
  | .arr options, _ => options
  | expected, _ => [expected]

/-- matching by a comparison of values -/
def matchesBy (agree : Json → Json → Bool) (r : Rule) (n : NodeData) : Bool :=
  r.enabled && r.selector.entries.all fun e =>
    match attributeOf? n e.1 with
    | some actual => (choices e.2 actual).any (agree · actual)
    | none => false

/-- equality by value; apart from two numbers, numbers have to be spelled alike as well -/
def literally : Json → Json → Bool
  | .num m, .num k => m.agrees k
  | expected, actual => expected.equal actual && expected.alike actual

theorem valuesAgree_eq (expected actual : Json) :
    valuesAgree expected actual = literally expected actual := by
  cases expected with
  | num m =>
    cases actual with
    | num k => rfl
    | _ => rfl
  | _ => exact same_eq _ _

theorem valueAccepted_eq (expected actual : Json) :
    valueAccepted expected actual = (choices expected actual).any (literally · actual) := by
  have one (v : Json) : [v].any (literally · actual) = valuesAgree v actual := by
    rw [List.any_cons, List.any_nil, Bool.or_false, valuesAgree_eq]
  cases expected with
  | arr options =>
    cases actual with
    | arr items => exact (one (.arr options)).symm
    | _ =>
      show options.any _ = options.any _
      exact congrArg _ (funext fun v => valuesAgree_eq v _)
  | null => exact (one .null).symm
  | bool b => exact (one (.bool b)).symm
  | num m => exact (one (.num m)).symm
  | str s => exact (one (.str s)).symm
  | obj ms => exact (one (.obj ms)).symm

theorem isMatch_eq (r : Rule) (n : NodeData) : r.isMatch n = r.matchesBy literally n := by
  unfold isMatch matchesBy
  refine congrArg (_ && ·) (congrArg _ (funext fun e => ?_))
  unfold accepts
  cases attributeOf? n e.1 with
  | none => rfl
  | some actual => exact valueAccepted_eq e.2 actual

/-! ## respelled rules and nodes -/

theorem any_respelled {p q : Json → Bool} {xs ys : List Json} (h : ItemsRespell xs ys)
    (same : ∀ x ∈ xs, ∀ y, Respells x y → p x = q y) : xs.any p = ys.any q := by
  induction xs generalizing ys with
  | nil =>
    cases h
    rfl
  | cons x xs ih =>
    obtain ⟨head, tail⟩ := List.forall_mem_cons.mp same
    cases h with
    | cons h hs => rw [List.any_cons, List.any_cons, head _ h, ih hs tail]

theorem all_respelled {p q : String × Json → Bool} {xs ys : List (String × Json)}
    (h : MembersRespell xs ys) (same : ∀ e ∈ xs, ∀ y, Respells e.2 y → p e = q (e.1, y)) :
    xs.all p = ys.all q := by
  induction xs generalizing ys with
  | nil =>
    cases h
    rfl
  | cons e xs ih =>
    obtain ⟨head, tail⟩ := List.forall_mem_cons.mp same
    cases h with
    | cons k h hs => rw [List.all_cons, List.all_cons, head _ h, ih hs tail]

theorem choices_respelled {e e' a a' : Json} (he : Respells e e') (ha : Respells a a') :
    ItemsRespell (choices e a) (choices e' a') := by
  have one {e e' : Json} (h : Respells e e') : ItemsRespell [e] [e'] := .cons h .nil
  cases he with
  | arr h =>
    cases ha with
    | arr k => exact one (.arr h)
    | _ => exact h
  | null => exact one .null
  | bool b => exact one (.bool b)
  | num h => exact one (.num h)
  | str s => exact one (.str s)
  | obj h => exact one (.obj h)

section
variable {r : Rule} {n : NodeData} {selector attributes : Dict Json}
  (hs : MembersRespell r.selector.entries selector.entries)
  (ha : MembersRespell n.attributes.entries attributes.entries)

include ha in
/-- the type and the name of a node are read where it has no attributes of these names -/
theorem attributeOf?_respelled (key : String) :
    (attributeOf? n key = none ∧ attributeOf? { n with attributes } key = none) ∨
      ∃ a a', attributeOf? n key = some a ∧ attributeOf? { n with attributes } key = some a' ∧
        Respells a a' := by
  unfold attributeOf? Dict.get?
  dsimp only
  rcases ha.lookup key with ⟨none, none'⟩ | ⟨a, a', found, found', respelled⟩
  · rw [none, none']
    by_cases type : key = "type"
    · exact .inr ⟨_, _, if_pos type, if_pos type, .str _⟩
    · by_cases name : key = "name"
      · exact .inr ⟨.str n.name, .str n.name, by simp [name], by simp [name], .str _⟩
      · exact .inl (by simp [type, name])
  · rw [found, found']
    exact .inr ⟨a, a', rfl, rfl, respelled⟩

include hs ha in
/-- a comparison that does not see the spelling of what it is given does not see it in a match -/
theorem matchesBy_respelled {p q : Json → Json → Bool}
    (same : ∀ e ∈ r.selector.entries, ∀ a, attributeOf? n e.1 = some a →
      ∀ c ∈ choices e.2 a, ∀ c' a', Respells c c' → Respells a a' → q c a = p c' a') :
    matchesBy p { r with selector } { n with attributes } = r.matchesBy q n := by
  unfold matchesBy
  refine congrArg (_ && ·) (Eq.symm ?_)
  refine all_respelled hs fun e he expected' hexpected => ?_
  dsimp only
  rcases attributeOf?_respelled ha e.1 with ⟨none, none'⟩ | ⟨a, a', found, found', hactual⟩
  · rw [none, none']
  · rw [found, found']
    refine any_respelled (choices_respelled hexpected hactual) fun c hc c' respelled => ?_
    exact same e he a found c hc c' a' respelled hactual

end

/-! ## what does not depend on the spelling -/

/-- a number, or a value in which no number stands -/
def isShallow : Json → Bool
  | .num _ => true
  | v => v.numberFree

/-- the rule never compares two values with numbers inside of both -/
def Shallow (r : Rule) (n : NodeData) : Prop :=
  ∀ e ∈ r.selector.entries, ∀ a, attributeOf? n e.1 = some a →
    ∀ c ∈ choices e.2 a, isShallow c = true ∨ isShallow a = true

theorem isShallow_respelled {a b : Json} (h : Respells a b) : isShallow a = isShallow b := by
  cases h with
  | num _ => rfl
  | null => rfl
  | bool _ => rfl
  | str _ => rfl
  | arr h => exact (Respells.arr h).numberFree_eq
  | obj h => exact (Respells.obj h).numberFree_eq

/-- only two values with numbers inside of both are compared by more than their values -/
theorem literally_eq_equal {c a : Json} (h : isShallow c = true ∨ isShallow a = true) :
    literally c a = c.equal a := by
  cases c with
  | num m => cases a <;> rfl
  | _ =>
    cases a with
    | num k => rfl
    | _ => exact (same_eq _ _).symm.trans (same_eq_equal h)

/-- such a rule matches by value, however the numbers are spelled -/
theorem isMatch_of_shallow {r : Rule} {n : NodeData} (shallow : r.Shallow n)
    {selector attributes : Dict Json}
    (hs : MembersRespell r.selector.entries selector.entries)
    (ha : MembersRespell n.attributes.entries attributes.entries) :
    isMatch { r with selector } { n with attributes } = r.matchesBy Json.equal n := by
  rw [isMatch_eq]
  refine matchesBy_respelled hs ha fun e he a found c hc c' a' respelled respelled' => ?_
  have shallow' : isShallow c' = true ∨ isShallow a' = true := by
    rw [← isShallow_respelled respelled, ← isShallow_respelled respelled']
    exact shallow e he a found c hc
  rw [literally_eq_equal shallow', equal_congr respelled respelled']

/-- **A match depends on the spelling of numbers inside of values only.**  Matching by value does
not change when numbers in a rule or in the attributes of a node are respelled, at any depth.  A
rule matches a node if it does so by value and the numbers inside of what is compared are spelled
alike as well.  So the spelling does not matter where no two values with numbers inside of both are
compared, as for numbers that are compared themselves. -/
theorem isMatch_respelled (r : Rule) (n : NodeData) {selector attributes : Dict Json}
    (hs : MembersRespell r.selector.entries selector.entries)
    (ha : MembersRespell n.attributes.entries attributes.entries) :
    let r' : Rule := { r with selector }
    let n' : NodeData := { n with attributes }
    r'.matchesBy Json.equal n' = r.matchesBy Json.equal n ∧
      (r.isMatch n = r.matchesBy literally n ∧ r'.isMatch n' = r'.matchesBy literally n') ∧
      (r.Shallow n → r'.isMatch n' = r.isMatch n ∧ r.isMatch n = r.matchesBy Json.equal n) := by
  intro r' n'
  have byValue : r'.matchesBy Json.equal n' = r.matchesBy Json.equal n :=
    matchesBy_respelled hs ha fun _ _ _ _ _ _ _ _ hc ha => equal_congr hc ha
  refine ⟨byValue, ⟨isMatch_eq r n, isMatch_eq r' n'⟩, fun shallow => ?_⟩
  have there : r'.isMatch n' = r.matchesBy Json.equal n := isMatch_of_shallow shallow hs ha
  have here : r.isMatch n = r.matchesBy Json.equal n :=
    isMatch_of_shallow shallow (MembersRespell.refl _) (MembersRespell.refl _)
  exact ⟨there.trans here.symm, here⟩

/-- an attribute that is a number may be spelled in another way -/
theorem isMatch_respelled_spacing :
    let eight : Json := .num (.int 8)
    let eight' : Json := .num (.real 8.0)
    let r : Rule := { id := "row", selector := Dict.set ∅ "itemSpacing" (.arr [.null, eight]) }
    let n : NodeData := { attributes := Dict.set ∅ "itemSpacing" eight }
    let attributes : Dict Json := Dict.set ∅ "itemSpacing" eight'
    MembersRespell r.selector.entries r.selector.entries ∧
      MembersRespell n.attributes.entries attributes.entries ∧ r.Shallow n ∧
      r.isMatch n = true ∧ r.isMatch { n with attributes } = true := by
  intro eight eight' r n attributes
  have hs := MembersRespell.refl r.selector.entries
  have ha : MembersRespell n.attributes.entries attributes.entries :=
    .cons "itemSpacing" (.num (.inr (by decide))) .nil
  have shallow : r.Shallow n := by
    intro e he a found c hc
    obtain rfl := List.mem_singleton.mp he
    have value : attributeOf? n "itemSpacing" = some eight := rfl
    obtain rfl : a = eight := Option.some.inj (found.symm.trans value)
    exact .inr rfl
  have here : r.isMatch n = true := by decide +kernel
  exact ⟨hs, ha, shallow, here, ((isMatch_respelled r n hs ha).2.2 shallow).1.trans here⟩

/-- an attribute that is a list of numbers may not: 8.0 for an 8 in it, and the rule that asks for
the 8 does not match any longer -/
theorem isMatch_of_dashes :
    let eight : Json := .num (.int 8)
    let eight' : Json := .num (.real 8.0)
    let r : Rule := { id := "dashed", selector := Dict.set ∅ "strokeDashes" (.arr [eight]) }
    let n : NodeData := { attributes := Dict.set ∅ "strokeDashes" (.arr [eight]) }
    let attributes : Dict Json := Dict.set ∅ "strokeDashes" (.arr [eight'])
    JsonNumber.toFloat (.int 8) = 8.0 ∧
      MembersRespell n.attributes.entries attributes.entries ∧
      r.isMatch n = true ∧ r.isMatch { n with attributes } = false := by
  intro eight eight' r n attributes
  have ha : MembersRespell n.attributes.entries attributes.entries :=
    .cons "strokeDashes" (.arr (.cons (.num (.inr (by decide))) .nil)) .nil
  exact ⟨rfl, ha, by decide +kernel, by decide +kernel⟩

end Handoff.Rule
