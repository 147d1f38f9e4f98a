import Handoff.Proofs.Decimal.Doubles

/-!
# Values whose numbers are spelled in another way

The integer 8 and the double 8.0 are two spellings of one number: both are read as the same double.
A value is respelled where numbers in it, at any depth, give way to numbers that are read as equal
doubles.  Two comparisons of values are set beside each other here.  `equal` takes numbers by the
doubles that they are read as, and respelling changes nothing about it; `same` wants numbers of one
spelling too, which is said by `alike`.

* `Json.Respells`       the same value with its numbers spelled in another way;
* `Json.equal_congr`    values that are respelled are equal to the same values;
* `Json.same_eq`        `same` is `equal` and `alike` together;
* `Json.same_eq_equal`  where one of the values holds no number the two comparisons are one.
-/

namespace Handoff

namespace JsonNumber

/-- the numbers are read as equal doubles -/
def agrees (m k : JsonNumber) : Bool := m.toFloat == k.toFloat

/-- the same integer, or two doubles -/
def alike : JsonNumber → JsonNumber → Bool
  | .int a, .int b => a == b
  | .real _, .real _ => true
  | _, _ => false

theorem same_eq (m k : JsonNumber) : m.same k = (m.agrees k && m.alike k) := by
  cases m with
  | int a =>
    cases k with
    | int b =>
      show (a == b) = (agrees (.int a) (.int b) && a == b)
      cases h : a == b with
      | false => rw [Bool.and_false]
      | true =>
        obtain rfl := eq_of_beq h
        have self : agrees (.int a) (.int a) = true := Decimal.toFloat_beq_self a
        rw [self, Bool.and_true]
    | real y => exact (Bool.and_false _).symm
  | real x =>
    cases k with
    | int b => exact (Bool.and_false _).symm
    | real y => exact (Bool.and_true _).symm

/-- the number itself, or one that is read as an equal double -/
def Respells (m k : JsonNumber) : Prop := m = k ∨ m.agrees k = true

theorem agrees_congr {m m' k k' : JsonNumber} (hm : m.Respells m') (hk : k.Respells k') :
    m.agrees k = m'.agrees k' := by
  have left {n : JsonNumber} : m.agrees n = m'.agrees n := by
    rcases hm with rfl | hm
    · rfl
    · rw [Bool.eq_iff_iff]
      exact ⟨BEq.trans (BEq.symm hm), BEq.trans hm⟩
  rw [left]
  rcases hk with rfl | hk
  · rfl
  · rw [Bool.eq_iff_iff]
    exact ⟨fun h => BEq.trans h hk, fun h => BEq.trans h (BEq.symm hk)⟩

end JsonNumber

namespace Json

/-- induction over values, for all items of a list and all members of an object at once -/
theorem induct {motive : Json → Prop} (null : motive .null) (bool : ∀ b, motive (.bool b))
    (num : ∀ n, motive (.num n)) (str : ∀ s, motive (.str s))
    (arr : ∀ xs, (∀ x ∈ xs, motive x) → motive (.arr xs))
    (obj : ∀ ms, (∀ e ∈ ms, motive e.2) → motive (.obj ms)) (a : Json) : motive a :=
  @Json.rec motive (fun xs => ∀ x ∈ xs, motive x) (fun ms => ∀ e ∈ ms, motive e.2)
    (fun e => motive e.2) null bool num str (fun xs ih => arr xs ih) (fun ms ih => obj ms ih)
    (List.forall_mem_nil _) (fun _ _ hx ih => List.forall_mem_cons.mpr ⟨hx, ih⟩)
    (List.forall_mem_nil _) (fun _ _ hx ih => List.forall_mem_cons.mpr ⟨hx, ih⟩)
    (fun _ _ h => h) a

/-! ## comparisons by a comparison of numbers -/

mutual
/-- equality of values in which numbers are compared by `p` -/
def sameBy (p : JsonNumber → JsonNumber → Bool) (a b : Json) : Bool :=
  match a, b with
  | .null, .null => true
  | .bool x, .bool y => x == y
  | .num x, .num y => p x y
  | .str x, .str y => x == y
  | .arr xs, .arr ys => sameItemsBy p xs ys
  | .obj xs, .obj ys => xs.length == ys.length && sameMembersBy p xs ys
  | _, _ => false
termination_by structural a

def sameItemsBy (p : JsonNumber → JsonNumber → Bool) (xs ys : List Json) : Bool :=
  match xs, ys with
  | [], [] => true
  | x :: xs, y :: ys => sameBy p x y && sameItemsBy p xs ys
  | _, _ => false
termination_by structural xs

def sameMembersBy (p : JsonNumber → JsonNumber → Bool) (xs ys : List (String × Json)) : Bool :=
  match xs with
  | [] => true
  | (k, x) :: xs =>
    (match ys.lookup k with
      | some y => sameBy p x y
      | none => false) && sameMembersBy p xs ys
termination_by structural xs
end

/-- equality of values, with all numbers by the doubles that they are read as -/
def equal (a b : Json) : Bool := a.sameBy JsonNumber.agrees b

/-- equality of values but for the doubles among their numbers, which may be any -/
def alike (a b : Json) : Bool := a.sameBy JsonNumber.alike b

theorem sameItems_eq {xs : List Json} (ih : ∀ x ∈ xs, ∀ y, x.same y = (x.equal y && x.alike y)) :
    ∀ ys, sameItems xs ys
      = (sameItemsBy JsonNumber.agrees xs ys && sameItemsBy JsonNumber.alike xs ys) := by
  induction xs with
  | nil => intro ys; cases ys <;> rfl
  | cons x xs step =>
    intro ys
    cases ys with
    | nil => rfl
    | cons y ys =>
      obtain ⟨head, tail⟩ := List.forall_mem_cons.mp ih
      rw [sameItems, sameItemsBy, sameItemsBy, head, step tail]
      show (x.equal y && x.alike y && _) = (x.equal y && _ && (x.alike y && _))
      ac_rfl

theorem sameMembers_eq {xs : List (String × Json)}
    (ih : ∀ e ∈ xs, ∀ y, e.2.same y = (e.2.equal y && e.2.alike y)) (ys : List (String × Json)) :
    sameMembers xs ys
      = (sameMembersBy JsonNumber.agrees xs ys && sameMembersBy JsonNumber.alike xs ys) := by
  induction xs with
  | nil => rfl
  | cons e xs step =>
    obtain ⟨k, x⟩ := e
    obtain ⟨head, tail⟩ := List.forall_mem_cons.mp ih
    rw [sameMembers, sameMembersBy, sameMembersBy, step tail]
    cases ys.lookup k with
    | none => rfl
    | some y =>
      dsimp only
      rw [head]
      show (x.equal y && x.alike y && _) = (x.equal y && _ && (x.alike y && _))
      ac_rfl

/-- `same` takes numbers by the doubles that they are read as, and wants them spelled alike -/
theorem same_eq (a : Json) : ∀ b, a.same b = (a.equal b && a.alike b) := by
  induction a using induct with
  | null => intro b; cases b <;> rfl
  | bool x =>
    intro b
    cases b with
    | bool y => exact (Bool.and_self _).symm
    | _ => rfl
  | num m =>
    intro b
    cases b with
    | num k => exact JsonNumber.same_eq m k
    | _ => rfl
  | str s =>
    intro b
    cases b with
    | str t => exact (Bool.and_self _).symm
    | _ => rfl
  | arr xs ih =>
    intro b
    cases b with
    | arr ys => exact sameItems_eq ih ys
    | _ => rfl
  | obj xs ih =>
    intro b
    cases b with
    | obj ys =>
      show (xs.length == ys.length && sameMembers xs ys)
        = ((xs.length == ys.length && sameMembersBy JsonNumber.agrees xs ys)
          && (xs.length == ys.length && sameMembersBy JsonNumber.alike xs ys))
      rw [sameMembers_eq ih]
      cases xs.length == ys.length with
      | false => rfl
      | true => rfl
    | _ => rfl

/-! ## other spellings -/

mutual
/-- the same value with its numbers spelled in another way -/
inductive Respells : Json → Json → Prop
  | null : Respells .null .null
  | bool (b : Bool) : Respells (.bool b) (.bool b)
  | num {m k : JsonNumber} (h : m.Respells k) : Respells (.num m) (.num k)
  | str (s : String) : Respells (.str s) (.str s)
  | arr {xs ys : List Json} (h : ItemsRespell xs ys) : Respells (.arr xs) (.arr ys)
  | obj {xs ys : List (String × Json)} (h : MembersRespell xs ys) : Respells (.obj xs) (.obj ys)

inductive ItemsRespell : List Json → List Json → Prop
  | nil : ItemsRespell [] []
  | cons {x y : Json} {xs ys : List Json} (h : Respells x y) (hs : ItemsRespell xs ys) :
      ItemsRespell (x :: xs) (y :: ys)

/-- members under the same keys -/
inductive MembersRespell : List (String × Json) → List (String × Json) → Prop
  | nil : MembersRespell [] []
  | cons (k : String) {x y : Json} {xs ys : List (String × Json)} (h : Respells x y)
      (hs : MembersRespell xs ys) : MembersRespell ((k, x) :: xs) ((k, y) :: ys)
end

theorem ItemsRespell.refl_of {xs : List Json} (h : ∀ x ∈ xs, Respells x x) :
    ItemsRespell xs xs := by
  induction xs with
  | nil => exact .nil
  | cons x xs ih =>
    obtain ⟨head, tail⟩ := List.forall_mem_cons.mp h
    exact .cons head (ih tail)

theorem MembersRespell.refl_of {ms : List (String × Json)} (h : ∀ e ∈ ms, Respells e.2 e.2) :
    MembersRespell ms ms := by
  induction ms with
  | nil => exact .nil
  | cons e ms ih =>
    obtain ⟨head, tail⟩ := List.forall_mem_cons.mp h
    exact .cons e.1 head (ih tail)

/-- numbers may also stay as they are -/
theorem Respells.refl (a : Json) : Respells a a := by
  induction a using induct with
  | null => exact .null
  | bool b => exact .bool b
  | num n => exact .num (.inl rfl)
  | str s => exact .str s
  | arr xs ih => exact .arr (ItemsRespell.refl_of ih)
  | obj ms ih => exact .obj (MembersRespell.refl_of ih)

theorem MembersRespell.refl (ms : List (String × Json)) : MembersRespell ms ms :=
  refl_of fun e _ => Respells.refl e.2

theorem MembersRespell.length {xs ys : List (String × Json)} (h : MembersRespell xs ys) :
    xs.length = ys.length := by
  induction xs generalizing ys with
  | nil =>
    cases h
    rfl
  | cons e xs ih =>
    cases h with
    | cons k _ hs => rw [List.length_cons, List.length_cons, ih hs]

/-- a key has respelled values, or none in both -/
theorem MembersRespell.lookup {xs ys : List (String × Json)} (h : MembersRespell xs ys)
    (key : String) : (xs.lookup key = none ∧ ys.lookup key = none) ∨
      ∃ x y, xs.lookup key = some x ∧ ys.lookup key = some y ∧ Respells x y := by
  induction xs generalizing ys with
  | nil =>
    cases h
    exact .inl ⟨rfl, rfl⟩
  | cons e xs ih =>
    cases h with
    | @cons k x y xs ys hx hs =>
      rw [List.lookup_cons, List.lookup_cons]
      cases key == k with
      | true => exact .inr ⟨x, y, rfl, rfl, hx⟩
      | false => exact ih hs

theorem sameItemsBy_congr {xs : List Json}
    (ih : ∀ x ∈ xs, ∀ x' y y', Respells x x' → Respells y y' → x.equal y = x'.equal y')
    {xs' ys ys' : List Json} (hx : ItemsRespell xs xs') (hy : ItemsRespell ys ys') :
    sameItemsBy JsonNumber.agrees xs ys = sameItemsBy JsonNumber.agrees xs' ys' := by
  induction xs generalizing xs' ys ys' with
  | nil =>
    cases hx
    cases hy <;> rfl
  | cons x xs step =>
    obtain ⟨head, tail⟩ := List.forall_mem_cons.mp ih
    cases hx with
    | cons h hs =>
      cases hy with
      | nil => rfl
      | cons k ks =>
        rw [sameItemsBy, sameItemsBy, step tail hs ks]
        exact congrArg (· && _) (head _ _ _ h k)

theorem sameMembersBy_congr {xs : List (String × Json)}
    (ih : ∀ e ∈ xs, ∀ x' y y', Respells e.2 x' → Respells y y' → e.2.equal y = x'.equal y')
    {xs' ys ys' : List (String × Json)} (hx : MembersRespell xs xs') (hy : MembersRespell ys ys') :
    sameMembersBy JsonNumber.agrees xs ys = sameMembersBy JsonNumber.agrees xs' ys' := by
  induction xs generalizing xs' with
  | nil =>
    cases hx
    rfl
  | cons e xs step =>
    obtain ⟨head, tail⟩ := List.forall_mem_cons.mp ih
    cases hx with
    | cons k h hs =>
      rw [sameMembersBy, sameMembersBy, step tail hs]
      rcases hy.lookup k with ⟨none, none'⟩ | ⟨y, y', found, found', respelled⟩
      · rw [none, none']
      · rw [found, found']
        exact congrArg (· && _) (head _ _ _ h respelled)

/-- values that are respelled are equal to the same values -/
theorem equal_congr {a a' b b' : Json} (ha : Respells a a') (hb : Respells b b') :
    a.equal b = a'.equal b' := by
  induction a using induct generalizing a' b b' with
  | null => cases ha; cases hb <;> rfl
  | bool x => cases ha; cases hb <;> rfl
  | num m =>
    cases ha with
    | num h =>
      cases hb with
      | num k => exact JsonNumber.agrees_congr h k
      | _ => rfl
  | str s => cases ha; cases hb <;> rfl
  | arr xs ih =>
    cases ha with
    | arr h =>
      cases hb with
      | arr k => exact sameItemsBy_congr (fun x hx x' y y' => ih x hx) h k
      | _ => rfl
  | obj xs ih =>
    cases ha with
    | obj h =>
      cases hb with
      | @obj ys ys' k =>
        show (_ && sameMembersBy _ _ _) = (_ && sameMembersBy _ _ _)
        rw [h.length, k.length, sameMembersBy_congr (fun e he x' y y' => ih e he) h k]
      | _ => rfl

/-! ## values without numbers -/

mutual
/-- whether no number stands in a value -/
def numberFree (a : Json) : Bool :=
  match a with
  | .num _ => false
  | .arr xs => itemsNumberFree xs
  | .obj ms => membersNumberFree ms
  | _ => true
termination_by structural a

def itemsNumberFree (xs : List Json) : Bool :=
  match xs with
  | [] => true
  | x :: xs => numberFree x && itemsNumberFree xs
termination_by structural xs

def membersNumberFree (ms : List (String × Json)) : Bool :=
  match ms with
  | [] => true
  | (_, x) :: ms => numberFree x && membersNumberFree ms
termination_by structural ms
end

theorem itemsNumberFree_iff {xs : List Json} :
    itemsNumberFree xs = true ↔ ∀ x ∈ xs, x.numberFree = true := by
  induction xs with
  | nil => exact iff_of_true rfl (List.forall_mem_nil _)
  | cons x xs ih => rw [itemsNumberFree, Bool.and_eq_true, ih, List.forall_mem_cons]

theorem membersNumberFree_iff {ms : List (String × Json)} :
    membersNumberFree ms = true ↔ ∀ e ∈ ms, e.2.numberFree = true := by
  induction ms with
  | nil => exact iff_of_true rfl (List.forall_mem_nil _)
  | cons e ms ih => rw [membersNumberFree, Bool.and_eq_true, ih, List.forall_mem_cons]

section
variable {p q : JsonNumber → JsonNumber → Bool}

theorem sameItemsBy_eq {xs ys : List Json}
    (h : ∀ x ∈ xs, ∀ y ∈ ys, x.sameBy p y = x.sameBy q y) :
    sameItemsBy p xs ys = sameItemsBy q xs ys := by
  induction xs generalizing ys with
  | nil => cases ys <;> rfl
  | cons x xs ih =>
    cases ys with
    | nil => rfl
    | cons y ys =>
      have rest : sameItemsBy p xs ys = sameItemsBy q xs ys :=
        ih fun x' hx y' hy => h x' (List.mem_cons_of_mem _ hx) y' (List.mem_cons_of_mem _ hy)
      rw [sameItemsBy, sameItemsBy, h x List.mem_cons_self y List.mem_cons_self, rest]

theorem sameMembersBy_eq {xs ys : List (String × Json)}
    (h : ∀ e ∈ xs, ∀ d ∈ ys, e.2.sameBy p d.2 = e.2.sameBy q d.2) :
    sameMembersBy p xs ys = sameMembersBy q xs ys := by
  induction xs with
  | nil => rfl
  | cons e xs ih =>
    obtain ⟨head, tail⟩ := List.forall_mem_cons.mp h
    rw [sameMembersBy, sameMembersBy, ih tail]
    cases found : ys.lookup e.1 with
    | none => rfl
    | some y =>
      obtain ⟨before, after, parts, -⟩ := List.lookup_eq_some_iff.mp found
      have there : (e.1, y) ∈ ys := parts ▸ List.mem_append_right _ List.mem_cons_self
      exact congrArg (· && _) (head _ there)

/-- without numbers on one of the sides it does not matter how numbers are compared -/
theorem sameBy_of_numberFree {a b : Json} (free : a.numberFree = true ∨ b.numberFree = true) :
    a.sameBy p b = a.sameBy q b := by
  induction a using induct generalizing b with
  | null => cases b <;> rfl
  | bool x => cases b <;> rfl
  | num m =>
    cases b with
    | num k => exact absurd free (by simp [numberFree])
    | _ => rfl
  | str s => cases b <;> rfl
  | arr xs ih =>
    cases b with
    | arr ys =>
      refine sameItemsBy_eq fun x hx y hy => ih x hx ?_
      exact free.imp (fun h => itemsNumberFree_iff.mp h x hx) fun h => itemsNumberFree_iff.mp h y hy
    | _ => rfl
  | obj xs ih =>
    cases b with
    | obj ys =>
      refine congrArg (_ && ·) (sameMembersBy_eq fun e he d hd => ih e he ?_)
      exact free.imp (fun h => membersNumberFree_iff.mp h e he)
        fun h => membersNumberFree_iff.mp h d hd
    | _ => rfl

/-- without numbers on one of the sides nothing is left to the spelling -/
theorem same_eq_equal {a b : Json} (free : a.numberFree = true ∨ b.numberFree = true) :
    a.same b = a.equal b := by
  have alike : a.alike b = a.equal b := sameBy_of_numberFree free
  rw [same_eq, alike, Bool.and_self]

end

theorem ItemsRespell.numberFree_eq {xs ys : List Json}
    (ih : ∀ x ∈ xs, ∀ y, Respells x y → x.numberFree = y.numberFree) (h : ItemsRespell xs ys) :
    itemsNumberFree xs = itemsNumberFree ys := by
  induction xs generalizing ys with
  | nil =>
    cases h
    rfl
  | cons x xs step =>
    obtain ⟨head, tail⟩ := List.forall_mem_cons.mp ih
    cases h with
    | cons h hs => rw [itemsNumberFree, itemsNumberFree, head _ h, step tail hs]

theorem MembersRespell.numberFree_eq {xs ys : List (String × Json)}
    (ih : ∀ e ∈ xs, ∀ y, Respells e.2 y → e.2.numberFree = y.numberFree)
    (h : MembersRespell xs ys) : membersNumberFree xs = membersNumberFree ys := by
  induction xs generalizing ys with
  | nil =>
    cases h
    rfl
  | cons e xs step =>
    obtain ⟨head, tail⟩ := List.forall_mem_cons.mp ih
    cases h with
    | cons k h hs =>
      rw [membersNumberFree, membersNumberFree, step tail hs]
      exact congrArg (· && _) (head _ h)

/-- respelling puts no number where there was none -/
theorem Respells.numberFree_eq {a b : Json} (h : Respells a b) : a.numberFree = b.numberFree := by
  induction a using induct generalizing b with
  | null => cases h; rfl
  | bool x => cases h; rfl
  | num m => cases h; rfl
  | str s => cases h; rfl
  | arr xs ih =>
    cases h with
    | arr h => exact h.numberFree_eq fun x hx y => ih x hx
  | obj xs ih =>
    cases h with
    | obj h => exact h.numberFree_eq fun e he y => ih e he

end Json
end Handoff
