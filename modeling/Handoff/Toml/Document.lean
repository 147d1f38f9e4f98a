import Handoff.Dict
import Handoff.Toml.Date
import Handoff.Toml.Scalar

/-!
# TOML documents

A document is a table.  Its lines define keys, perhaps with points in them, or begin a table or one
more table of a list.  What is defined once cannot be defined again: a table that a line began takes
no keys through points, and one that came from such keys cannot be begun by a line.

* `Toml.parse?`    the table of a whole text.
-/

namespace Handoff

/-- how a table came to be -/
inductive Toml.Origin where
  /-- it stands between braces -/
  | inlined
  /-- a line of its own began it -/
  | headed
  /-- it encloses a table that a line began -/
  | implied
  /-- it encloses a key with points -/
  | dotted
deriving DecidableEq, Repr, Inhabited

inductive Toml where
  | str (s : String)
  | num (n : Toml.Number)
  | bool (b : Bool)
  | moment (text : String)
  | arr (items : List Toml)
  | table (origin : Toml.Origin) (members : List (String × Toml))
  | tables (items : List (List (String × Toml)))
deriving Repr, Inhabited

namespace Toml

abbrev Members := List (String × Toml)

/-! ## defining -/

/-- how to change a table: what it becomes, if it may be changed so -/
abbrev Change := Origin → Members → Option (Origin × Members)

/-- changes the table at a path, and makes those on the way as `made` says -/
def changeAt (made : Origin) (change : Change) : List String → Change
  | [], origin, ms => change origin ms
  | k :: ks, origin, ms =>
    match ms.lookup k with
    | none => (changeAt made change ks made []).map fun t =>
        (origin, Dict.assign k (table t.1 t.2) ms)
    | some (table o inner) =>
      if o = .inlined || (made = .dotted && o = .headed) then none
      else (changeAt made change ks o inner).map fun t => (origin, Dict.assign k (table t.1 t.2) ms)
    | some (tables items) =>
      match items.getLast? with
      | some last => (changeAt made change ks .headed last).map fun t =>
          (origin, Dict.assign k (tables (items.dropLast ++ [t.2])) ms)
      | none => none
    | some _ => none

/-- a new key; `viaPoints` tells whether points led to the table -/
def addKey (viaPoints : Bool) (k : String) (v : Toml) : Change := fun origin ms =>
  if (origin = .dotted) = viaPoints && (ms.lookup k).isNone then some (origin, ms ++ [(k, v)])
  else none

/-- a key with points before its last name -/
def addPath (path : List String) (k : String) (v : Toml) : Change :=
  changeAt .dotted (addKey (!path.isEmpty) k v) path

def beginTable (k : String) : Change := fun origin ms =>
  match ms.lookup k with
  | none => some (origin, ms ++ [(k, table .headed [])])
  | some (table .implied inner) => some (origin, Dict.assign k (table .headed inner) ms)
  | some _ => none

def beginItem (k : String) : Change := fun origin ms =>
  match ms.lookup k with
  | none => some (origin, ms ++ [(k, tables [[]])])
  | some (tables items) => some (origin, Dict.assign k (tables (items ++ [[]])) ms)
  | some _ => none

/-! ## reading -/

def isBareKeyChar (c : Char) : Bool := Chars.isAsciiAlnum c || c == '-' || c == '_'

def keyPart? (cs : List Char) : Option (String × List Char) :=
  match cs with
  | '"' :: _ | '\'' :: _ => lineString? cs
  | _ =>
    let name := cs.takeWhile isBareKeyChar
    if name.isEmpty then none else some (String.ofList name, cs.dropWhile isBareKeyChar)

/-- one more than the number of names that a key may have -/
def keyBound : Nat := 80

/-- the names of a key, of which the last stands apart, and the rest behind it -/
def key? (fuel : Nat) (path : List String) (cs : List Char) :
    Option (List String × String × List Char) :=
  match fuel with
  | 0 => none
  | fuel + 1 =>
    match keyPart? (skipGap cs) with
    | none => none
    | some (name, r) =>
      match skipGap r with
      | '.' :: r => key? fuel (path ++ [name]) r
      | r => if path.length + 1 < keyBound then some (path, name, r) else none

def dropComment (cs : List Char) : List Char :=
  match cs with
  | '#' :: _ => cs.dropWhile (· ≠ '\n')
  | _ => cs

/-- skips white space, line ends and comments -/
def skipLines (fuel : Nat) (cs : List Char) : List Char :=
  match fuel with
  | 0 => cs
  | fuel + 1 =>
    match dropComment (skipGap cs) with
    | '\n' :: r => skipLines fuel r
    | r => r

def isTokenChar (c : Char) : Bool := Chars.isAsciiAlnum c || "+-._".toList.contains c

def token? (cs : List Char) : Option Toml :=
  if cs = "true".toList then some (.bool true)
  else if cs = "false".toList then some (.bool false)
  else (number? cs).map .num

/-- a value without parts, and the rest -/
def simple? (cs : List Char) : Option (Toml × List Char) :=
  match moment? cs with
  | some (text, r) => some (.moment text, r)
  | none => (token? (cs.takeWhile isTokenChar)).map fun v => (v, cs.dropWhile isTokenChar)

/-- how deep lists and tables may be nested in a value -/
def maxDepth : Nat := 79

mutual
/-- a value in which lists and tables may be nested to a depth -/
def value? (fuel depth : Nat) (cs : List Char) : Option (Toml × List Char) :=
  match fuel with
  | 0 => none
  | fuel + 1 =>
    match cs, depth with
    | '"' :: _, _ | '\'' :: _, _ => (string? cs).map fun (s, r) => (.str s, r)
    | '[' :: r, depth + 1 => (items? fuel depth [] r).map fun (vs, r) => (.arr vs, r)
    | '\x7b' :: r, depth + 1 =>
      match skipGap r with
      | '\x7d' :: r => some (.table .inlined [], r)
      | r => (members? fuel depth [] r).map fun (ms, r) => (.table .inlined ms, r)
    | _, _ => simple? cs

/-- the items of a list, which may run over several lines, up to its closing bracket -/
def items? (fuel depth : Nat) (acc : List Toml) (cs : List Char) : Option (List Toml × List Char) :=
  match fuel with
  | 0 => none
  | fuel + 1 =>
    match skipLines cs.length cs with
    | ']' :: r => some (acc.reverse, r)
    | r =>
      match value? fuel depth r with
      | none => none
      | some (v, r) =>
        match skipLines r.length r with
        | ',' :: r => items? fuel depth (v :: acc) r
        | ']' :: r => some ((v :: acc).reverse, r)
        | _ => none

/-- the members of a table between braces, on one line -/
def members? (fuel depth : Nat) (acc : Members) (cs : List Char) : Option (Members × List Char) :=
  match fuel with
  | 0 => none
  | fuel + 1 =>
    match key? cs.length [] cs with
    | some (path, k, '=' :: r) =>
      match value? fuel depth (skipGap r) with
      | none => none
      | some (v, r) =>
        match addPath path k v .inlined acc with
        | none => none
        | some (_, acc) =>
          match skipGap r with
          | ',' :: r => members? fuel depth acc r
          | '\x7d' :: r => some (acc, r)
          | _ => none
    | _ => none
end

/-- one line: how it changes the document, the path of the table that the next lines belong to, and
the rest -/
def line? (current : List String) (cs : List Char) : Option (Change × List String × List Char) :=
  match cs with
  | '[' :: '[' :: r =>
    match key? r.length [] r with
    | some (path, k, ']' :: ']' :: r) =>
      some (changeAt .implied (beginItem k) path, path ++ [k], r)
    | _ => none
  | '[' :: r =>
    match key? r.length [] r with
    | some (path, k, ']' :: r) => some (changeAt .implied (beginTable k) path, path ++ [k], r)
    | _ => none
  | _ =>
    match key? cs.length [] cs with
    | some (path, k, '=' :: r) =>
      (value? (r.length + 1) maxDepth (skipGap r)).map fun (v, r) =>
        (changeAt .implied (addPath path k v) current, current, r)
    | _ => none

def lines? (fuel : Nat) (current : List String) (ms : Members) (cs : List Char) : Option Members :=
  match fuel with
  | 0 => none
  | fuel + 1 =>
    match skipLines cs.length cs with
    | [] => some ms
    | cs =>
      match line? current cs with
      | none => none
      | some (change, current, r) =>
        match change .headed ms, dropComment (skipGap r) with
        | some (_, ms), [] => some ms
        | some (_, ms), '\n' :: r => lines? fuel current ms r
        | _, _ => none

/-- controls have no place in a document, not even in comments -/
def isControl (c : Char) : Bool := (c.toNat < 0x20 && c ≠ '\t' && c ≠ '\n') || c.toNat = 0x7F

def parse? (s : String) : Option Members :=
  let cs := (Chars.dropPrefix? ['\uFEFF'] s.toList).getD s.toList
  let cs := Chars.replaceAll ['\r', '\n'] ['\n'] cs
  if cs.any isControl then none else lines? (cs.length + 1) [] [] cs

end Toml
end Handoff
