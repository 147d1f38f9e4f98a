import Handoff.Dict
import Handoff.Json.Basic

/-!
# Typed reading of JSON

A decoder accepts a value or refuses it.  A record is written as an object, whose unknown members
do not matter, or as a list of its fields in order, from which fields may be missing at the end.

* `Record.ofJson?`                      both written forms of a record;
* `required`, `orElse`, `optional`      fields that must be there, have a default, or may be absent.
-/

namespace Handoff

abbrev Decoder (α : Type) := Json → Option α

namespace Decode

def float : Decoder Float := Json.asFloat?

def string : Decoder String := Json.asStr?

def bool : Decoder Bool := Json.asBool?

def natBelow (bound : Nat) : Decoder Nat := Json.asNat? bound

def list {α : Type} (item : Decoder α) : Decoder (List α) := fun v =>
  v.asArr?.bind fun items => items.mapM item

/-- the entries of an object, of which a later one with the same key wins -/
def dict {α : Type} (entry : Decoder α) : Decoder (Dict α) := fun v =>
  v.asObj?.bind fun ms => (ms.mapM fun e => (entry e.2).map fun a => (e.1, a)).map Dict.ofList

def nullable {α : Type} (inner : Decoder α) : Decoder (Option α)
  | .null => some none
  | v => (inner v).map some

/-- the name in the place of an enumeration: a string, or an object with that one key and null -/
def tag : Decoder String
  | .str s => some s
  | .obj [(k, .null)] => some k
  | _ => none

def oneOf {α : Type} (names : List (String × α)) : Decoder α := fun v =>
  (tag v).bind fun s => names.lookup s

/-- unknown names stand for `other` -/
def oneOfOr {α : Type} (names : List (String × α)) (other : α) : Decoder α := fun v =>
  (tag v).map fun s => (names.lookup s).getD other

end Decode

/-- the fields of a record, and whether it was written as a list -/
structure Record where
  fields : List (String × Json)
  listed : Bool

namespace Record

def ofJson? (names : List String) : Json → Option Record
  | .obj ms => some ⟨ms, false⟩
  | .arr items => if items.length ≤ names.length then some ⟨names.zip items, true⟩ else none
  | _ => none

def get? (r : Record) (name : String) : Option Json := r.fields.lookup name

def required {α : Type} (r : Record) (name : String) (d : Decoder α) : Option α :=
  (r.get? name).bind d

def orElse {α : Type} (r : Record) (name : String) (default : α) (d : Decoder α) : Option α :=
  match r.get? name with
  | none => some default
  | some v => d v

/-- null and absence both stand for nothing; a list may not leave the field out -/
def optional {α : Type} (r : Record) (name : String) (d : Decoder α) : Option (Option α) :=
  match r.get? name with
  | none => if r.listed then none else some none
  | some v => Decode.nullable d v

end Record
end Handoff
