import Handoff.Dict
import Handoff.Json.Number
import Handoff.Json.Basic

/-!
# Reading JSON

One value makes a text, with blanks around it.  Values may be nested to a depth of 127.  The readers
recurse on a bound that is computed from the length of the text, which every step shortens, so it is
never what stops them.

* `Json.parse?`      the value of a text;
* `Json.parseAs?`    the parts of it that a shape asks for.
-/

namespace Handoff.Json

def maxDepth : Nat := 127

def isJsonBlank (c : Char) : Bool := c == ' ' || c == '\n' || c == '\t' || c == '\r'

def skipBlanks (cs : List Char) : List Char := cs.dropWhile isJsonBlank

/-! ## strings -/

def hexQuad? (a b c d : Char) : Option Nat :=
  if [a, b, c, d].all Chars.isHexDigit then
    some ([a, b, c, d].foldl (fun n h => 16 * n + Chars.hexValue h) 0)
  else none

def simpleEscape? (c : Char) : Option Char :=
  [('"', '"'), ('\\', '\\'), ('/', '/'), ('b', '\x08'), ('f', '\x0c'), ('n', '\n'),
    ('r', '\r'), ('t', '\t')].lookup c

def isHighSurrogate (n : Nat) : Bool := 0xD800 ≤ n && n < 0xDC00

def isLowSurrogate (n : Nat) : Bool := 0xDC00 ≤ n && n < 0xE000

/-- the rest of a string behind its opening quote; `acc` holds what was read, last first -/
def stringBody? (acc : List Char) : List Char → Option (String × List Char)
  | [] => none
  | '"' :: cs => some (String.ofList acc.reverse, cs)
  | '\\' :: 'u' :: a :: b :: c :: d :: '\\' :: 'u' :: e :: f :: g :: h :: cs =>
    match hexQuad? a b c d with
    | none => none
    | some m =>
      if isHighSurrogate m then
        match hexQuad? e f g h with
        | none => none
        | some n =>
          if isLowSurrogate n then
            stringBody? (Char.ofNat (0x10000 + (m - 0xD800) * 0x400 + (n - 0xDC00)) :: acc) cs
          else none
      else if isLowSurrogate m then none
      else stringBody? (Char.ofNat m :: acc) ('\\' :: 'u' :: e :: f :: g :: h :: cs)
  | '\\' :: 'u' :: a :: b :: c :: d :: cs =>
    match hexQuad? a b c d with
    | none => none
    | some m =>
      if isHighSurrogate m || isLowSurrogate m then none
      else stringBody? (Char.ofNat m :: acc) cs
  | '\\' :: c :: cs =>
    match simpleEscape? c with
    | none => none
    | some e => stringBody? (e :: acc) cs
  | c :: cs => if c.toNat < 0x20 || c == '\\' then none else stringBody? (c :: acc) cs

/-! ## passing over -/

/-- the rest behind a string whose opening quote is read; its escapes may stand for no characters -/
def skipString? : List Char → Option (List Char)
  | [] => none
  | '"' :: cs => some cs
  | '\\' :: 'u' :: a :: b :: c :: d :: cs => (hexQuad? a b c d).bind fun _ => skipString? cs
  | '\\' :: c :: cs => (simpleEscape? c).bind fun _ => skipString? cs
  | c :: cs => if c.toNat < 0x20 || c == '\\' then none else skipString? cs

/-- the rest behind a key and its colon -/
def skipKey? (cs : List Char) : Option (List Char) :=
  match skipBlanks cs with
  | '"' :: r =>
    match (skipString? r).map skipBlanks with
    | some (':' :: r) => some r
    | _ => none
  | _ => none

mutual
/-- the rest behind a value of any depth -/
def skipValue? (fuel : Nat) (cs : List Char) : Option (List Char) :=
  match fuel with
  | 0 => none
  | fuel + 1 =>
    match skipBlanks cs with
    | 'n' :: 'u' :: 'l' :: 'l' :: r => some r
    | 't' :: 'r' :: 'u' :: 'e' :: r => some r
    | 'f' :: 'a' :: 'l' :: 's' :: 'e' :: r => some r
    | '"' :: r => skipString? r
    | '[' :: r =>
      match skipBlanks r with
      | ']' :: r => some r
      | r => skipItems? fuel r
    | '{' :: r =>
      match skipBlanks r with
      | '}' :: r => some r
      | r => (skipKey? r).bind fun r => skipMembers? fuel r
    | r => (NumberText.scan? r).map fun (_, r) => r

/-- the rest behind the items of an array and its closing bracket -/
def skipItems? (fuel : Nat) (cs : List Char) : Option (List Char) :=
  match fuel with
  | 0 => none
  | fuel + 1 =>
    match (skipValue? fuel cs).map skipBlanks with
    | some (',' :: r) => skipItems? fuel r
    | some (']' :: r) => some r
    | _ => none

/-- the rest behind the members of an object and its closing brace; the first key is read -/
def skipMembers? (fuel : Nat) (cs : List Char) : Option (List Char) :=
  match fuel with
  | 0 => none
  | fuel + 1 =>
    match (skipValue? fuel cs).map skipBlanks with
    | some (',' :: r) => (skipKey? r).bind fun r => skipMembers? fuel r
    | some ('}' :: r) => some r
    | _ => none
end

/-! ## values -/

/-- the members that a shape asks for: where everything is wanted a repeated key keeps its place and
takes the later value, a record refuses it, and entries are all kept -/
def collectMembers? (shape : Shape) (ms : List (String × Json)) : Option (List (String × Json)) :=
  match shape with
  | .whole => some (Dict.ofList ms).entries
  | .entries _ => some ms
  | .record _ => if (ms.map Prod.fst).Nodup then some ms else none

mutual
/-- a value at the head of the text; `depth` is how many levels may still open -/
def value? (fuel depth : Nat) (shape : Shape) (cs : List Char) : Option (Json × List Char) :=
  match fuel with
  | 0 => none
  | fuel + 1 =>
    match skipBlanks cs with
    | 'n' :: 'u' :: 'l' :: 'l' :: r => some (.null, r)
    | 't' :: 'r' :: 'u' :: 'e' :: r => some (.bool true, r)
    | 'f' :: 'a' :: 'l' :: 's' :: 'e' :: r => some (.bool false, r)
    | '"' :: r => (stringBody? [] r).map fun (s, r) => (.str s, r)
    | '[' :: r =>
      match depth with
      | 0 => none
      | depth + 1 =>
        match skipBlanks r with
        | ']' :: r => some (.arr [], r)
        | r => (items? fuel depth shape [] r).map fun (xs, r) => (.arr xs, r)
    | '{' :: r =>
      match depth with
      | 0 => none
      | depth + 1 =>
        match skipBlanks r with
        | '}' :: r => some (.obj [], r)
        | r =>
          match members? fuel depth shape [] r with
          | none => none
          | some (ms, r) => (collectMembers? shape ms).map fun ms => (.obj ms, r)
    | r =>
      match NumberText.scan? r with
      | none => none
      | some (n, r) => n.value?.map fun n => (.num n, r)

/-- the items of an array up to its closing bracket -/
def items? (fuel depth : Nat) (shape : Shape) (acc : List Json) (cs : List Char) :
    Option (List Json × List Char) :=
  match fuel with
  | 0 => none
  | fuel + 1 =>
    let (first, others) := shape.uncons
    match value? fuel depth first cs with
    | none => none
    | some (v, r) =>
      match skipBlanks r with
      | ',' :: r => items? fuel depth others (v :: acc) r
      | ']' :: r => some ((v :: acc).reverse, r)
      | _ => none

/-- the members of an object up to its closing brace, without those that are passed over -/
def members? (fuel depth : Nat) (shape : Shape) (acc : List (String × Json)) (cs : List Char) :
    Option (List (String × Json) × List Char) :=
  match fuel with
  | 0 => none
  | fuel + 1 =>
    match skipBlanks cs with
    | '"' :: r =>
      match stringBody? [] r with
      | none => none
      | some (k, r) =>
        match skipBlanks r with
        | ':' :: r =>
          let member := match shape.member? k with
            | none => (skipValue? r.length r).map fun r => (acc, r)
            | some inner => (value? fuel depth inner r).map fun (v, r) => ((k, v) :: acc, r)
          match member with
          | none => none
          | some (acc, r) =>
            match skipBlanks r with
            | ',' :: r => members? fuel depth shape acc r
            | '}' :: r => some (acc.reverse, r)
            | _ => none
        | _ => none
    | _ => none
end

def readAs? (shape : Shape) (cs : List Char) : Option Json :=
  match value? (cs.length + 1) maxDepth shape cs with
  | some (v, r) => if (skipBlanks r).isEmpty then some v else none
  | none => none

def parseAs? (shape : Shape) (s : String) : Option Json := readAs? shape s.toList

def parse? (s : String) : Option Json := parseAs? .whole s

end Handoff.Json
