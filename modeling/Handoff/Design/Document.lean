import Handoff.Design.Reader
import Handoff.Fault

/-!
# Design documents

A document holds its root in one of three ways: it is the node itself, it has the node as its
`document`, or it has `nodes` that are found by id and hold one document each.
-/

namespace Handoff

namespace DesignNode

def read (v : Json) : Except Fault DesignNode :=
  match ofJson? v with
  | some n => .ok n
  | none => .error (.document .notANode)

/-- the root of a response with several nodes: the one with the given id, or the first -/
def ofNodes (nodes : List (String × Json)) (id : Option String) : Except Fault DesignNode := do
  let entry ← match id with
    | some id => match nodes.lookup id with
      | some e => pure e
      | none => throw (.service none (.nodeNotInResponse id))
    | none => match nodes with
      | (_, e) :: _ => pure e
      | [] => throw (.config .noNodes)
  match entry with
  | .obj ms => match ms.lookup "document" with
    | some document => read document
    | none => throw (.service none .noDocument)
  | _ => throw (.service none .nullEntry)

/-- the root node of a document -/
def ofDocument (v : Json) (id : Option String) : Except Fault DesignNode :=
  match v with
  | .obj ms =>
    match ms.lookup "nodes" with
    | some (.obj nodes) => ofNodes nodes id
    | _ => match ms.lookup "document" with
      | some document => read document
      | none => read (.obj ((Dict.ofList ms).erase "nodes").entries)
  | _ => .error (.config .inputNotAnObject)

end DesignNode
end Handoff
