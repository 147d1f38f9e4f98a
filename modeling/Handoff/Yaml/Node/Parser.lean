import Handoff.Yaml.Node
import Handoff.Text.Bytes

/-!
# Nodes from tokens

A node is a text, a reference, or a collection of nodes, with an optional name and type in front of
it.  Where nothing is written, an empty node stands.

* `document?`     the only document of a text; `none` inside stands for a text without documents.
-/

namespace Handoff.Yaml

/-- what the handles of types stand for -/
abbrev Handles := List (String × List Nat)

/-! ## names and types -/

/-- what stands in front of a node -/
structure Properties where
  name : Option String := none
  tag : Option TagName := none

/-- a name and a type, in any order -/
def properties : List Token → Properties × List Token
  | .anchor name :: .tag tag :: ts | .tag tag :: .anchor name :: ts => (⟨some name, some tag⟩, ts)
  | .anchor name :: ts => ({ name }, ts)
  | .tag tag :: ts => ({ tag }, ts)
  | ts => ({}, ts)

/-- the full name of a type -/
def TagName.expand? (handles : Handles) (t : TagName) : Option (List Nat) :=
  if t.handle = "" then some t.suffix
  else (handles.lookup t.handle).map (· ++ t.suffix)

/-- the type that says no more than that a node has one -/
def anyType : List Nat := [0x21]

/-! ## nodes -/

/-- where a node may stand -/
inductive Position where
  /-- inside brackets -/
  | flow
  /-- outside brackets -/
  | block
  /-- behind the mark of a key or value, where a list need not be indented -/
  | member
deriving DecidableEq, Repr

/-- a token that a node may be missing in front of, in a map without brackets -/
def endsMember : List Token → Bool
  | .key :: _ | .value :: _ | .collectionEnd :: _ => true
  | _ => false

/-- the same in a list without brackets -/
def endsItem : List Token → Bool
  | .item :: _ | .collectionEnd :: _ => true
  | _ => false

/-- the same behind the mark of a value between brackets -/
def endsValueIn (close : Token) : List Token → Bool
  | t :: _ => t = .comma || t = close
  | [] => false

/-- the same behind the mark of a key -/
def endsKeyIn (close : Token) (ts : List Token) : Bool :=
  endsValueIn close ts || ts.head? = some .value

/-- the comma in front of every part but the first -/
def separated? (isFirst : Bool) : List Token → Option (List Token)
  | .comma :: ts => if isFirst then some (.comma :: ts) else some ts
  | ts => if isFirst then some ts else none

/-- what is read from the head of a list of tokens, and the rest of them -/
abbrev Parsed (α : Type) := α × List Token

abbrev Member := Node String × Node String

mutual
/-- a node; every call takes a token or is followed by one that does, so that twice the number of
tokens bounds their number -/
def node? (handles : Handles) (fuel : Nat) (p : Position) (ts : List Token) :
    Option (Parsed (Node String)) :=
  match fuel, ts with
  | 0, _ => none
  | _, .alias name :: ts => some (.ref name, ts)
  | fuel + 1, ts => do
    let (props, ts) := properties ts
    let type ← match props.tag with
      | some tag => (tag.expand? handles).map some
      | none => some none
    match ts with
    | .scalar s :: ts =>
      let type := type.filter (· ≠ anyType)
      return (.scalar props.name ⟨s.text, s.isPlain, type⟩, ts)
    | .bracketOpen :: ts =>
      let (items, ts) ← flowItems? handles fuel true ts
      return (.list props.name type items, ts)
    | .braceOpen :: ts =>
      let (members, ts) ← flowMembers? handles fuel true ts
      return (.map props.name type members, ts)
    | _ =>
      match p, ts with
      | .member, .item :: _ =>
        let (items, ts) ← looseItems? handles fuel ts
        return (.list props.name type items, ts)
      | .block, .listStart :: ts | .member, .listStart :: ts =>
        let (items, ts) ← items? handles fuel ts
        return (.list props.name type items, ts)
      | .block, .mapStart :: ts | .member, .mapStart :: ts =>
        let (members, ts) ← members? handles fuel ts
        return (.map props.name type members, ts)
      | _, _ =>
        if props.name.isSome || type.isSome then
          return (.scalar props.name { type }, ts)
        else none

/-- a node that may be missing -/
def nodeUnless? (handles : Handles) (fuel : Nat) (p : Position) (isMissing : Bool)
    (ts : List Token) : Option (Parsed (Node String)) :=
  match fuel with
  | 0 => none
  | fuel + 1 => if isMissing then some (.empty, ts) else node? handles fuel p ts

/-- the items of a list without brackets -/
def items? (handles : Handles) (fuel : Nat) (ts : List Token) :
    Option (Parsed (List (Node String))) :=
  match fuel, ts with
  | fuel + 1, .item :: ts => do
    let (n, ts) ← nodeUnless? handles fuel .block (endsItem ts) ts
    let (ns, ts) ← items? handles fuel ts
    return (n :: ns, ts)
  | _, .collectionEnd :: ts => some ([], ts)
  | _, _ => none

/-- the items of a list that is not indented -/
def looseItems? (handles : Handles) (fuel : Nat) (ts : List Token) :
    Option (Parsed (List (Node String))) :=
  match fuel, ts with
  | fuel + 1, .item :: ts => do
    let (n, ts) ← nodeUnless? handles fuel .block (endsItem ts || endsMember ts) ts
    let (ns, ts) ← looseItems? handles fuel ts
    return (n :: ns, ts)
  | _, ts => some ([], ts)

/-- the members of a map without brackets -/
def members? (handles : Handles) (fuel : Nat) (ts : List Token) : Option (Parsed (List Member)) :=
  match fuel, ts with
  | fuel + 1, .key :: ts => do
    let (k, ts) ← nodeUnless? handles fuel .member (endsMember ts) ts
    let (v, ts) ← match ts with
      | .value :: ts => nodeUnless? handles fuel .member (endsMember ts) ts
      | ts => some (.empty, ts)
    let (ms, ts) ← members? handles fuel ts
    return ((k, v) :: ms, ts)
  | _, .collectionEnd :: ts => some ([], ts)
  | _, _ => none

/-- the value of a member between brackets, which may be missing together with its mark -/
def flowValue? (handles : Handles) (fuel : Nat) (close : Token) (ts : List Token) :
    Option (Parsed (Node String)) :=
  match fuel, ts with
  | 0, _ => none
  | fuel + 1, .value :: ts => nodeUnless? handles fuel .flow (endsValueIn close ts) ts
  | _, ts => some (.empty, ts)

/-- the items of a list in brackets; a key in it begins a map of one member, and where the key is
missing, the token behind its mark is passed over -/
def flowItems? (handles : Handles) (fuel : Nat) (isFirst : Bool) (ts : List Token) :
    Option (Parsed (List (Node String))) :=
  match fuel, ts with
  | 0, _ => none
  | _, .bracketClose :: ts => some ([], ts)
  | fuel + 1, ts => do
    match ← separated? isFirst ts with
    | .bracketClose :: ts => return ([], ts)
    | .key :: ts =>
      let isMissing := endsKeyIn .bracketClose ts
      let (k, ts) ← nodeUnless? handles fuel .flow isMissing (if isMissing then ts.drop 1 else ts)
      let (v, ts) ← flowValue? handles fuel .bracketClose ts
      let (ns, ts) ← flowItems? handles fuel false ts
      return (.map none none [(k, v)] :: ns, ts)
    | ts =>
      let (n, ts) ← node? handles fuel .flow ts
      let (ns, ts) ← flowItems? handles fuel false ts
      return (n :: ns, ts)

/-- the members of a map in braces; a node without the mark of a key has no value -/
def flowMembers? (handles : Handles) (fuel : Nat) (isFirst : Bool) (ts : List Token) :
    Option (Parsed (List Member)) :=
  match fuel, ts with
  | 0, _ => none
  | _, .braceClose :: ts => some ([], ts)
  | fuel + 1, ts => do
    match ← separated? isFirst ts with
    | .braceClose :: ts => return ([], ts)
    | .key :: ts =>
      let (k, ts) ← nodeUnless? handles fuel .flow (endsKeyIn .braceClose ts) ts
      let (v, ts) ← flowValue? handles fuel .braceClose ts
      let (ms, ts) ← flowMembers? handles fuel false ts
      return ((k, v) :: ms, ts)
    | ts =>
      let (k, ts) ← node? handles fuel .flow ts
      let (ms, ts) ← flowMembers? handles fuel false ts
      return ((k, .empty) :: ms, ts)
end

/-! ## documents -/

/-- the handles that need no directive -/
def commonHandles : Handles := [("!", anyType), ("!!", Bytes.utf8 "tag:yaml.org,2002:")]

/-- the directives in front of a document: the handles that they define, and the rest.  A handle is
defined once, and there is at most one version, which is known. -/
def directives? (hasVersion : Bool) (handles : Handles) : List Token → Option (Parsed Handles)
  | .version major minor :: ts =>
    if hasVersion || major ≠ 1 || (minor ≠ 1 && minor ≠ 2) then none
    else directives? true handles ts
  | .handle name meaning :: ts =>
    if (handles.lookup name).isSome then none
    else directives? hasVersion ((name, meaning) :: handles) ts
  | ts => some (handles, ts)

/-- nothing comes next that a node could begin with -/
def endsDocument : List Token → Bool
  | [] | .documentStart :: _ | .documentEnd :: _ | .version _ _ :: _ | .handle _ _ :: _ => true
  | _ => false

/-- a document with the directives and the mark in front of it, or without any of these -/
def firstDocument? (ts : List Token) : Option (Parsed (Node String)) := do
  let fuel := 4 * ts.length + 4
  match ts with
  | .documentStart :: _ | .version _ _ :: _ | .handle _ _ :: _ =>
    let (handles, ts) ← directives? false [] ts
    match ts with
    | .documentStart :: ts =>
      nodeUnless? (handles ++ commonHandles) fuel .block (endsDocument ts) ts
    | _ => none
  | _ => node? commonHandles fuel .block ts

def document? (ts : List Token) : Option (Option (Node String)) := do
  if ts.isEmpty then return none
  let (n, ts) ← firstDocument? ts
  if ts.all (· = .documentEnd) then return some n else none

end Handoff.Yaml
