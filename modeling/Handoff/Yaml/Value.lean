import Handoff.Dict
import Handoff.Text.Bytes
import Handoff.Yaml.Node
import Handoff.Yaml.Node.Parser
import Handoff.Yaml.Scalar
import Handoff.Yaml.Token.Lexer

/-!
# The value of a YAML text

A reference stands for the value of its node.  Only so many references are followed as the size of
the document allows, and collections may be nested to a depth, so that every text has a value of
moderate size or none.

* `parse?`   the value of a text.
-/

namespace Handoff.Yaml

/-! ## scalars -/

/-- the full name of a common type -/
def commonType (name : String) : List Nat := Bytes.utf8 ("tag:yaml.org,2002:" ++ name)

/-- a name that only some programs know -/
def isOwnName (name : List Nat) : Bool := name.head? = some 0x21

/-- a type that no value has here: one that only some programs know, if its name is a text -/
def isOwnType : Option (List Nat) → Bool
  | some name => isOwnName name && Bytes.utf8 (Bytes.ofUtf8 name) = name
  | none => false

/-- the value of a scalar; one of a type has to be written like the values of that type -/
def Scalar.value? (s : Scalar) : Option Json :=
  let cs := s.text.toList
  match s.type with
  | none => if s.isPlain then resolve? cs else some (.str s.text)
  | some type =>
    if isOwnType s.type then none
    else if type = commonType "bool" then (truth? s.text).map .bool
    else if type = commonType "int" then (integerValue? cs).join
    else if type = commonType "float" then (real? cs).map ofReal
    else if type = commonType "null" then if isNullText s.text then some .null else none
    else if isOwnName type && s.isPlain then resolve? cs
    else some (.str s.text)

/-! ## collections -/

/-- a value and how many more references may be followed -/
abbrev Expansion := StateT Nat Option

/-- the node that a reference stands for, or the node itself -/
def target (targets : List (Nat × Node Nat)) : Node Nat → Expansion (Node Nat)
  | .ref number => fun left =>
    match left with
    | 0 => none
    | left + 1 => (targets.lookup number).map fun n => (n, left)
  | n => pure n

/-- the text of a key, which is a scalar of any type -/
def keyText (targets : List (Nat × Node Nat)) (k : Node Nat) : Expansion String := do
  match ← target targets k with
  | .scalar _ s => return s.text
  | _ => failure

/-- the value of a node in which collections are nested to a depth of at most `depth`; of members
with the same key the later one wins -/
def value (targets : List (Nat × Node Nat)) (depth : Nat) (n : Node Nat) : Expansion Json := do
  match ← target targets n, depth with
  | .scalar _ s, _ => s.value?
  | .list _ type items, depth + 1 =>
    if isOwnType type then failure
    return .arr (← items.mapM (value targets depth))
  | .map _ type members, depth + 1 =>
    if isOwnType type then failure
    let ms ← members.mapM fun (k, v) => do
      return (← keyText targets k, ← value targets depth v)
    return .obj (Dict.ofList ms).entries
  | _, _ => failure

/-- how deep collections may be nested -/
def maxDepth : Nat := 128

/-- how many references may be followed for each part of a document -/
def followedPerPart : Nat := 100

def Linked.value? (d : Linked) : Option Json :=
  ((value d.targets maxDepth d.root).run (followedPerPart * d.root.size)).map Prod.fst

/-- the value of the only document of a text; a text without documents is null -/
def parse? (s : String) : Option Json := do
  match ← document? (← tokens? s) with
  | some n => (← n.link?).value?
  | none => return .null

end Handoff.Yaml
