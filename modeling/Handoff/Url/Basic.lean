import Handoff.Decimal.Reader
import Handoff.Url.Host

/-!
# Addresses

An address has a scheme, perhaps a host with a port, a path and perhaps a query.  What a scheme is
decides how the rest is read: with a web scheme there is always a host, a backslash counts as a
slash, and how many slashes come first does not matter.

* `Url.parse`       reads an address that stands on its own;
* `Url.segments`    the pieces of the path, without those that only point back;
* `Url.pairs`       the names and values of the query.
-/

namespace Handoff

structure Url where
  scheme : String
  host : Option Host
  port : Option Nat
  segments : List String
  query : Option String
deriving Repr

inductive SchemeKind where
  | web
  | file
  | other
deriving DecidableEq, Repr

namespace Url

def kindOf (scheme : String) : SchemeKind :=
  if ["http", "https", "ws", "wss", "ftp"].contains scheme then .web
  else if scheme = "file" then .file else .other

/-! ## cutting -/

/-- what is read: no blanks or controls at the ends, no line ends and tabs at all -/
def cleaned (cs : List Char) : List Char :=
  (Chars.trimBy (fun c => c.toNat ≤ 0x20) cs).filter fun c => !(c == '\t' || c == '\n' || c == '\r')

def isSchemeChar (c : Char) : Bool := Chars.isAsciiAlnum c || c == '+' || c == '-' || c == '.'

/-- the scheme before the first colon, and what follows -/
def scheme? (cs : List Char) : Option (String × List Char) :=
  match Chars.cut? ':' cs with
  | some (a :: rest, tail) =>
    if Chars.isAsciiAlpha a && rest.all isSchemeChar then
      some (Text.asciiLower (String.ofList (a :: rest)), tail)
    else none
  | _ => none

/-- the text before the first `c`, and what follows it -/
def cutBefore (c : Char) (cs : List Char) : List Char × Option (List Char) :=
  match Chars.cut? c cs with
  | some (a, b) => (a, some b)
  | none => (cs, none)

def isSlash (kind : SchemeKind) (c : Char) : Bool := c == '/' || (c == '\\' && kind != .other)

/-- the host and what follows it; a colon in brackets belongs to the host -/
def cutHost : Bool → List Char → List Char × List Char
  | _, [] => ([], [])
  | inBrackets, c :: cs =>
    if c = ':' ∧ inBrackets = false then ([], c :: cs)
    else
      let inBrackets := if c = '[' then true else if c = ']' then false else inBrackets
      let (host, rest) := cutHost inBrackets cs
      (c :: host, rest)

/-! ## the path -/

def isEscapedInPath (c : Char) : Bool :=
  c.toNat ≤ 0x20 || 0x7F ≤ c.toNat || "\"#<>?\x60\x7b\x7d".toList.contains c

def escapePathChar (c : Char) : List Char :=
  if isEscapedInPath c then (Bytes.utf8 (String.singleton c)).flatMap Bytes.percentByte else [c]

/-- a full stop may be written as a byte -/
def plainDots (segment : List Char) : List Char :=
  Chars.replaceAll "%2e".toList ['.'] (Chars.replaceAll "%2E".toList ['.'] segment)

/-- drops segments that stand for the current or the enclosing one; `above` holds those before, the
nearest one first -/
def resolve (above : List String) : List (List Char) → List String
  | [] => above.reverse
  | s :: rest =>
    let ending := if rest.isEmpty then [""] else []
    if plainDots s = ['.', '.'] then resolve (ending ++ above.tail) rest
    else if plainDots s = ['.'] then resolve (ending ++ above) rest
    else resolve (String.ofList (s.flatMap escapePathChar) :: above) rest

/-- the segments of a path, whose first slash opens it -/
def segmentsOf (kind : SchemeKind) (cs : List Char) : List String :=
  let path := match cs with
    | c :: rest => if isSlash kind c then rest else c :: rest
    | [] => []
  resolve [] (Chars.splitWhere (isSlash kind) path)

/-! ## the authority -/

/-- the digits of a number below that of ports -/
def port? (cs : List Char) : Option Nat :=
  let digits := cs.takeWhile (· != '\\')
  if digits.all Chars.isAsciiDigit then
    let n := Decimal.natOfDigits digits
    if n < 65536 then some n else none
  else none

/-- host and port after a possible user; `isLast` tells whether the address ends here -/
def authority (kind : SchemeKind) (isLast : Bool) (cs : List Char) :
    Except UrlFault (Host × Option Nat) := do
  let (user, site) := match Chars.cutLast? '@' cs with
    | some (user, site) => (some user, site)
    | none => (none, cs)
  let (hostText, portText) := cutHost false site
  if hostText.isEmpty && (kind != .other || !portText.isEmpty) then throw .emptyHost
  if hostText.isEmpty && (match user with
      | some [] => !isLast
      | some [':'] | none => false
      | some _ => true) then throw .emptyHost
  let host ← if kind = .other then Host.plainOfChars hostText else Host.ofChars hostText
  match portText with
  | [] | [':'] => return (host, none)
  | _ :: digits => match port? digits with
    | some n => return (host, some n)
    | none => throw .invalidPort

def isDriveLetter : List Char → Bool
  | [a, b] => Chars.isAsciiAlpha a && (b == ':' || b == '|')
  | _ => false

/-- the host of a file, if one is named -/
def fileHost (cs : List Char) : Except UrlFault (Option Host) :=
  if cs.isEmpty || isDriveLetter cs then .ok none else (Host.ofChars cs).map some

/-! ## reading -/

def parse (s : String) : Except UrlFault Url := do
  let some (scheme, rest) := scheme? (cleaned s.toList) | throw .relativeWithoutBase
  let kind := kindOf scheme
  let (rest, fragment) := cutBefore '#' rest
  let (rest, query) := cutBefore '?' rest
  let query := query.map String.ofList
  let isPath := fun c => isSlash kind c
  match kind with
  | .web =>
    let rest := rest.dropWhile isPath
    let path := rest.dropWhile fun c => !isPath c
    let (host, port) ← authority kind false (rest.takeWhile fun c => !isPath c)
    return ⟨scheme, some host, port, segmentsOf kind path, query⟩
  | .file =>
    match rest with
    | a :: b :: rest =>
      if isPath a && isPath b then
        let host ← fileHost (rest.takeWhile fun c => !isPath c)
        return ⟨scheme, host, none, segmentsOf kind (rest.dropWhile fun c => !isPath c), query⟩
      else return ⟨scheme, none, none, segmentsOf kind (a :: b :: rest), query⟩
    | rest => return ⟨scheme, none, none, segmentsOf kind rest, query⟩
  | .other =>
    match rest with
    | '/' :: '/' :: rest =>
      let path := rest.dropWhile fun c => !isPath c
      let isLast := path.isEmpty && query.isNone && fragment.isNone
      let (host, port) ← authority kind isLast (rest.takeWhile fun c => !isPath c)
      return ⟨scheme, some host, port, segmentsOf kind path, query⟩
    | '/' :: path => return ⟨scheme, none, none, segmentsOf kind ('/' :: path), query⟩
    | _ => return ⟨scheme, none, none, [], query⟩

/-! ## the query -/

/-- a plus stands for a blank, and a byte may be written with a percent sign -/
def decodeQuery (cs : List Char) : String :=
  let blanks := cs.map fun c => if c = '+' then ' ' else c
  Bytes.ofUtf8 (Bytes.percentDecode (Bytes.utf8 (String.ofList blanks)))

def pairOf (cs : List Char) : String × String :=
  let (name, value) := cutBefore '=' cs
  (decodeQuery name, decodeQuery (value.getD []))

def pairs (u : Url) : List (String × String) :=
  (Chars.fields (· == '&') (u.query.getD "").toList).map pairOf

end Url
end Handoff
