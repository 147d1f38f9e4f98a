import Handoff.Decimal.Notation

/-!
# JSON values

Objects are lists of members in the order in which they were written; a reader of texts keeps one
member per key.  A number is an integer, if it was written as one that fits 64 bits, or a double.

* `get?`      a member of an object;
* `Same`      equality of values: the order of members does not matter, and an integer differs
              from a double of the same value;
* `Shape`     which parts of a value a reader wants.
-/

namespace Handoff

inductive JsonNumber where
  | int (n : Int)
  | real (x : Float)
deriving Repr, Inhabited

inductive Json where
  | null
  | bool (b : Bool)
  | num (n : JsonNumber)
  | str (s : String)
  | arr (items : List Json)
  | obj (members : List (String × Json))
deriving Repr, Inhabited

namespace JsonNumber

/-- the nearest double -/
def toFloat : JsonNumber → Float
  | .int n => if n < 0 then -Float.ofNat n.natAbs else Float.ofNat n.natAbs
  | .real x => x

def same : JsonNumber → JsonNumber → Bool
  | .int a, .int b => a == b
  | .real a, .real b => a == b
  | _, _ => false

end JsonNumber

namespace Json

def ofNat (n : Nat) : Json := .num (.int n)

def ofFloat (x : Float) : Json := .num (.real x)

def ofOption {α : Type} (f : α → Json) : Option α → Json
  | none => .null
  | some a => f a

def ofList {α : Type} (f : α → Json) (as : List α) : Json := .arr (as.map f)

def ofStrings (ss : List String) : Json := .arr (ss.map .str)

/-- a member, if there is a value for it -/
def member? {α : Type} (key : String) (f : α → Json) : Option α → List (String × Json)
  | some a => [(key, f a)]
  | none => []

/-- a list as a member, unless it is empty -/
def listMember {α : Type} (key : String) (f : α → Json) (as : List α) : List (String × Json) :=
  if as.isEmpty then [] else [(key, ofList f as)]

def isNull : Json → Bool
  | .null => true
  | _ => false

def get? (key : String) : Json → Option Json
  | .obj ms => ms.lookup key
  | _ => none

def asStr? : Json → Option String
  | .str s => some s
  | _ => none

def asBool? : Json → Option Bool
  | .bool b => some b
  | _ => none

def asFloat? : Json → Option Float
  | .num n => some n.toFloat
  | _ => none

def asArr? : Json → Option (List Json)
  | .arr items => some items
  | _ => none

def asObj? : Json → Option (List (String × Json))
  | .obj ms => some ms
  | _ => none

/-- a natural number below `bound` that was written as an integer -/
def asNat? (bound : Nat) : Json → Option Nat
  | .num (.int n) => if 0 ≤ n ∧ n < bound then some n.toNat else none
  | _ => none

mutual
/-- equality of values -/
def same (a b : Json) : Bool :=
  match a, b with
  | .null, .null => true
  | .bool x, .bool y => x == y
  | .num x, .num y => x.same y
  | .str x, .str y => x == y
  | .arr xs, .arr ys => sameItems xs ys
  | .obj xs, .obj ys => xs.length == ys.length && sameMembers xs ys
  | _, _ => false
termination_by structural a

def sameItems (xs ys : List Json) : Bool :=
  match xs, ys with
  | [], [] => true
  | x :: xs, y :: ys => same x y && sameItems xs ys
  | _, _ => false
termination_by structural xs

/-- every member of the first list has an equal one in the second -/
def sameMembers (xs ys : List (String × Json)) : Bool :=
  match xs with
  | [] => true
  | (k, x) :: xs =>
    (match ys.lookup k with
      | some y => same x y
      | none => false) && sameMembers xs ys
termination_by structural xs
end

end Json
end Handoff

namespace Handoff.Json

/-!
## what is wanted of a JSON text

A reader that knows its document looks only at the parts that it wants.  A member that is no field
of a record is passed over: its text has to be JSON, but its numbers may be of any size, its escapes
may stand for no characters, and it may be nested to any depth.  A field may not be repeated.
-/

inductive Shape where
  /-- everything; of members with one key the last one counts -/
  | whole
  /-- every member, in this shape -/
  | entries (entry : Shape)
  /-- the fields of a record, each in a shape of its own -/
  | record (fields : List (String × Shape))
deriving Repr, Inhabited

namespace Shape

/-- the shape of the member with a key, unless it is passed over -/
def member? : Shape → String → Option Shape
  | whole, _ => some whole
  | entries entry, _ => some entry
  | record fields, key => fields.lookup key

/-- the shape of the first item of a list, and that of the others as a list of their own -/
def uncons : Shape → Shape × Shape
  | whole => (whole, whole)
  | entries entry => (entry, entries entry)
  | record ((_, field) :: fields) => (field, record fields)
  | record [] => (whole, record [])

end Shape
end Handoff.Json
