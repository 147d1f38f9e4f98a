import Handoff.Yaml.Token

/-!
# Nodes of YAML

A document is a tree of nodes.  A node may have a name, under which it is referred to elsewhere; `ρ`
is what a reference says, which is a name at first.

* `Node.size`      how many marks the parts of a node have: one for a text or a reference, two for a
                   list or map;
* `Node.link?`     a document whose references are numbers, with the nodes that these stand for;
                   `none` if a reference has no node before it.
-/

namespace Handoff.Yaml

structure Scalar where
  text : String := ""
  isPlain : Bool := true
  /-- the full name of its type in bytes, if it is given -/
  type : Option (List Nat) := none
deriving Repr, Inhabited

inductive Node (ρ : Type) where
  | ref (target : ρ)
  | scalar (name : Option String) (s : Scalar)
  | list (name : Option String) (type : Option (List Nat)) (items : List (Node ρ))
  | map (name : Option String) (type : Option (List Nat)) (members : List (Node ρ × Node ρ))
deriving Inhabited

namespace Node
variable {ρ : Type}

/-- the node that nothing stands for -/
def empty : Node ρ := .scalar none {}

mutual
def size : Node ρ → Nat
  | .ref _ | .scalar _ _ => 1
  | .list _ _ items => 2 + sizeOfItems items
  | .map _ _ members => 2 + sizeOfMembers members

def sizeOfItems : List (Node ρ) → Nat
  | [] => 0
  | n :: ns => size n + sizeOfItems ns

def sizeOfMembers : List (Node ρ × Node ρ) → Nat
  | [] => 0
  | (k, v) :: ms => size k + size v + sizeOfMembers ms
end

end Node
/-!
## references between nodes

A node with a name takes a number when it begins: how many different names there have been before.
So a name that is used again may share its number with the next new one, and the last node with a
number is the one that the number stands for.  A reference stands for the number that its name has
at that point.
-/

structure Links where
  /-- the number of every name -/
  numbers : List (String × Nat) := []
  /-- the named nodes so far, from zero on -/
  count : Nat := 0
  /-- for a number, which of the named nodes has it; a later entry comes first -/
  holders : List (Nat × Nat) := []

/-- a node begins -/
def Links.begin (l : Links) : Option String → Links
  | none => l
  | some name =>
    let number := l.numbers.length
    { numbers := (name, number) :: l.numbers.filter fun e => e.1 ≠ name
      count := l.count + 1
      holders := (number, l.count) :: l.holders }

namespace Node

mutual
/-- replaces names by numbers -/
def number? (l : Links) : Node String → Option (Node Nat × Links)
  | .ref name => (l.numbers.lookup name).map fun n => (.ref n, l)
  | .scalar name s => some (.scalar name s, l.begin name)
  | .list name type items =>
    (numberItems? (l.begin name) items).map fun (items, l) => (.list name type items, l)
  | .map name type members =>
    (numberMembers? (l.begin name) members).map fun (members, l) => (.map name type members, l)

def numberItems? (l : Links) : List (Node String) → Option (List (Node Nat) × Links)
  | [] => some ([], l)
  | n :: ns => do
    let (n, l) ← number? l n
    let (ns, l) ← numberItems? l ns
    return (n :: ns, l)

def numberMembers? (l : Links) :
    List (Node String × Node String) → Option (List (Node Nat × Node Nat) × Links)
  | [] => some ([], l)
  | (k, v) :: ms => do
    let (k, l) ← number? l k
    let (v, l) ← number? l v
    let (ms, l) ← numberMembers? l ms
    return ((k, v) :: ms, l)
end

/-- a node in front of others, if it has a name -/
def consNamed (name : Option String) (n : Node Nat) (ns : List (Node Nat)) : List (Node Nat) :=
  if name.isSome then n :: ns else ns

mutual
/-- the named nodes in the order in which they begin -/
def named : Node Nat → List (Node Nat)
  | .ref _ => []
  | .scalar name s => consNamed name (.scalar name s) []
  | .list name type items => consNamed name (.list name type items) (namedItems items)
  | .map name type members => consNamed name (.map name type members) (namedMembers members)

def namedItems : List (Node Nat) → List (Node Nat)
  | [] => []
  | n :: ns => named n ++ namedItems ns

def namedMembers : List (Node Nat × Node Nat) → List (Node Nat)
  | [] => []
  | (k, v) :: ms => named k ++ named v ++ namedMembers ms
end

end Node

/-- a document and the nodes that its references stand for -/
structure Linked where
  root : Node Nat
  targets : List (Nat × Node Nat)

def Node.link? (n : Node String) : Option Linked :=
  (n.number? {}).map fun (root, l) =>
    let named := root.named
    ⟨root, l.holders.filterMap fun (number, i) => named[i]?.map fun n => (number, n)⟩

end Handoff.Yaml
