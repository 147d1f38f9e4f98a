import Handoff.Dict
import Handoff.Decimal.Notation
import Handoff.Json.Decode

/-!
# Styles

A style is a CSS value under a property in kebab case.  Styles keep the order in which their
properties were first written.

* `StyleValue.show`   how a value is written;
* `Styles.text?`      the written value of a property;
* `StylePatch`         changes to styles, worked out before they are made.
-/

namespace Handoff

inductive StyleValue where
  | num (x : Float)
  | text (s : String)
deriving Repr, Inhabited

namespace StyleValue

/-- a number is written with at most two places -/
def «show» : StyleValue → String
  | .num x => Decimal.trimmed x
  | .text s => s

def text? : StyleValue → Option String
  | .num _ => none
  | .text s => some s

def toJson : StyleValue → Json
  | .num x => .ofFloat x
  | .text s => .str s

def ofJson? : Decoder StyleValue
  | .num n => some (.num n.toFloat)
  | .str s => some (.text s)
  | _ => none

instance : Coe String StyleValue := ⟨.text⟩

end StyleValue

def px (x : Float) : String := Decimal.trimmed x ++ "px"

/-- a property and its value -/
abbrev Declaration := String × StyleValue

def declare (property value : String) : Declaration := (property, .text value)

def declareIf (holds : Bool) (property value : String) : List Declaration :=
  if holds then [declare property value] else []

/-- a declaration, if there is a value for it -/
def declare? (property : String) : Option String → List Declaration
  | some value => [declare property value]
  | none => []

abbrev Styles := Dict StyleValue

namespace Styles

def text? (s : Styles) (property : String) : Option String := (s.get? property).map StyleValue.show

/-- whether a property is written as `value` -/
def is (s : Styles) (property value : String) : Bool := s.text? property == some value

def put (s : Styles) (property value : String) : Styles := s.set property (.text value)

def putDefault (s : Styles) (property value : String) : Styles :=
  s.setDefault property (.text value)

/-- writes declarations one after the other -/
def write (s : Styles) (ds : List Declaration) : Styles := Dict.setAll s ds

def toJson (s : Styles) : Json := .obj (s.entries.map fun e => (e.1, e.2.toJson))

def ofJson? : Decoder Styles := Decode.dict StyleValue.ofJson?

end Styles

/-- changes that are first worked out and then made: removals come before assignments -/
structure StylePatch where
  assignments : List Declaration := []
  removals : List String := []
deriving Repr

namespace StylePatch

instance : EmptyCollection StylePatch := ⟨⟨[], []⟩⟩

/-- a later assignment to a property takes the place of an earlier one, at the end -/
def set (p : StylePatch) (property : String) (v : StyleValue) : StylePatch :=
  { p with assignments := (p.assignments.filter fun e => e.1 ≠ property) ++ [(property, v)] }

def remove (p : StylePatch) (property : String) : StylePatch :=
  { p with removals := p.removals ++ [property] }

/-- the value that the patch assigns -/
def get? (p : StylePatch) (property : String) : Option StyleValue :=
  p.assignments.lookup property

def isEmpty (p : StylePatch) : Bool := p.assignments.isEmpty && p.removals.isEmpty

def setAll (p : StylePatch) (es : List Declaration) : StylePatch :=
  es.foldl (fun p e => p.set e.1 e.2) p

def removeAll (p : StylePatch) (properties : List String) : StylePatch :=
  properties.foldl remove p

def apply (p : StylePatch) (s : Styles) : Styles :=
  Dict.setAll (p.removals.foldl Dict.erase s) p.assignments

/-! ## what patches do to the view -/

theorem get?_apply_set (p : StylePatch) (property : String) (v : StyleValue) (s : Styles)
    (k : String) :
    ((p.set property v).apply s).get? k = if k = property then some v else (p.apply s).get? k := by
  show (Dict.setAll _ ((p.assignments.filter fun e => e.1 ≠ property) ++ [(property, v)])).get? k
    = _
  rw [Dict.setAll, List.foldl_append]
  show (Dict.set (Dict.setAll _ (p.assignments.filter fun e => e.1 ≠ property)) property v).get? k
    = _
  rw [Dict.get?_set]
  by_cases other : k = property
  · rw [if_pos other, if_pos other]
  · -- the assignments that give way are not those of `k`
    have same : (p.assignments.filter fun e => e.1 ≠ property).filter (fun e => e.1 = k)
        = p.assignments.filter fun e => e.1 = k := by
      rw [List.filter_filter]
      refine List.filter_congr fun e _ => ?_
      by_cases h : e.1 = k
      · simp only [h, other, decide_true, ne_eq, not_false_eq_true, Bool.and_self]
      · simp only [h, decide_false, Bool.false_and]
    rw [if_neg other, if_neg other, apply, Dict.get?_setAll, Dict.get?_setAll, same]
    rfl

/-- to assign declarations is to write them -/
theorem get?_apply_setAll (p : StylePatch) (es : List Declaration) (s : Styles) (k : String) :
    ((p.setAll es).apply s).get? k = ((p.apply s).write es).get? k := by
  induction es generalizing p with
  | nil => rfl
  | cons e es ih =>
    show (((p.set e.1 e.2).setAll es).apply s).get? k
      = (((p.apply s).set e.1 e.2).setAll es).get? k
    rw [ih, Styles.write, Dict.get?_setAll, Dict.get?_setAll, get?_apply_set, Dict.get?_set]

theorem removals_removeAll (p : StylePatch) (ks : List String) :
    (p.removeAll ks).removals = p.removals ++ ks := by
  induction ks generalizing p with
  | nil => exact (List.append_nil _).symm
  | cons k ks ih =>
    show ((p.remove k).removeAll ks).removals = _
    rw [ih, remove, List.append_assoc]
    rfl

theorem assignments_removeAll (p : StylePatch) (ks : List String) :
    (p.removeAll ks).assignments = p.assignments := by
  induction ks generalizing p with
  | nil => rfl
  | cons k ks ih => exact ih (p.remove k)

theorem get?_apply_removeAll (ks : List String) (s : Styles) (k : String) :
    ((removeAll ∅ ks).apply s).get? k = if k ∈ ks then none else s.get? k := by
  rw [apply, removals_removeAll, assignments_removeAll]
  exact Dict.get?_foldl_erase s ks k

end StylePatch
end Handoff
