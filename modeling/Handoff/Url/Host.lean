import Handoff.Decimal.Binary
import Handoff.Fault
import Handoff.Text.Bytes
import Handoff.Url.Domain

/-!
# Hosts of addresses

A host is a domain or a numeric address.  Domains are kept in ASCII, and one whose last label is a
number has to be a numeric address.
-/

namespace Handoff

inductive Host where
  | domain (name : String)
  | ipv4 (address : Nat)
  | ipv6 (groups : List Nat)
deriving DecidableEq, Repr

namespace Host

/-! ## numeric addresses -/

/-- the digits after the mark of the base, and the base -/
def radix : List Char → Nat × List Char
  | '0' :: 'x' :: cs => (16, cs)
  | '0' :: 'X' :: cs => (16, cs)
  | '0' :: c :: cs => (8, c :: cs)
  | cs => (10, cs)

def isDigitOf (base : Nat) (c : Char) : Bool := Chars.isHexDigit c && Chars.hexValue c < base

/-- one part of a numeric address: decimal, octal after a zero, hexadecimal after a zero and an x -/
def number? (cs : List Char) : Option Nat :=
  let (base, digits) := radix cs
  if cs.isEmpty || !digits.all (isDigitOf base) then none
  else some (digits.foldl (fun n c => base * n + Chars.hexValue c) 0)

/-- the labels of a domain, without the empty one after a full stop at the end -/
def labels (cs : List Char) : List (List Char) :=
  let parts := Chars.splitOn '.' cs
  if 1 < parts.length && parts.getLast? == some [] then parts.dropLast else parts

def endsInNumber (cs : List Char) : Bool :=
  match (labels cs).getLast? with
  | some l => (!l.isEmpty && l.all Chars.isAsciiDigit) || (number? l).isSome
  | none => false

/-- up to four numbers; all but the last are one byte each and the last fills the bytes left -/
def ipv4? (cs : List Char) : Option Nat := do
  let numbers ← (labels cs).mapM number?
  let last ← numbers.getLast?
  let bytes := numbers.dropLast
  let bound := Decimal.twoTo (8 * (4 - bytes.length))
  if 4 < numbers.length || bytes.any (255 < ·) || bound ≤ last then none
  else return bound * bytes.foldl (fun n b => 256 * n + b) 0 + last

/-- a byte in decimal, without zeros before it -/
def byte? (cs : List Char) : Option Nat :=
  if cs.isEmpty || !cs.all Chars.isAsciiDigit || 3 < cs.length
    || (1 < cs.length && cs.head? == some '0') then none
  else (number? cs).bind fun n => if n < 256 then some n else none

/-- one to four hexadecimal digits -/
def group? (cs : List Char) : Option Nat :=
  if cs.isEmpty || 4 < cs.length || !cs.all Chars.isHexDigit then none
  else some (cs.foldl (fun n c => 16 * n + Chars.hexValue c) 0)

/-- the last two groups may be written as four bytes -/
def lastGroups? (cs : List Char) : Option (List Nat) :=
  if cs.contains '.' then
    match (Chars.splitOn '.' cs).mapM byte? with
    | some [a, b, c, d] => some [256 * a + b, 256 * c + d]
    | _ => none
  else (group? cs).map fun g => [g]

/-- groups between colons; `atEnd` tells whether they are the last ones of the address -/
def groups? (atEnd : Bool) (cs : List Char) : Option (List Nat) :=
  if cs.isEmpty then some []
  else
    let parts := Chars.splitOn ':' cs
    if atEnd then do
      let firsts ← parts.dropLast.mapM group?
      return firsts ++ (← lastGroups? (parts.getLastD []))
    else parts.mapM group?

/-- eight groups, of which one run of zeros may be left out between two colons -/
def ipv6? (cs : List Char) : Option (List Nat) := do
  match Chars.cutAt? [':', ':'] cs with
  | none =>
    let gs ← groups? true cs
    if gs.length = 8 then return gs else none
  | some (a, b) =>
    let firsts ← groups? false a
    let lasts ← groups? true b
    let count := firsts.length + lasts.length
    if count ≤ 7 then return firsts ++ List.replicate (8 - count) 0 ++ lasts else none

/-! ## reading -/

/-- an address between square brackets -/
def ofBracketed (cs : List Char) : Except UrlFault Host :=
  match (Chars.dropSuffix? [']'] cs).bind ipv6? with
  | some groups => .ok (.ipv6 groups)
  | none => .error .invalidIpv6

/-- the host of an address whose scheme fixes what hosts mean -/
def ofChars : List Char → Except UrlFault Host
  | '[' :: cs => ofBracketed cs
  | cs =>
    match Domain.ascii? (Bytes.charsOf (Bytes.percentDecode (Bytes.utf8 (String.ofList cs)))) with
    | none => .error .invalidDomain
    | some [] => .error .emptyHost
    | some name =>
      if endsInNumber name then
        match ipv4? name with
        | some address => .ok (.ipv4 address)
        | none => .error .invalidIpv4
      else .ok (.domain (String.ofList name))

def isPlainRefused (c : Char) : Bool :=
  c.toNat = 0 || "\t\n\r #/:<>?@[\\]^|".toList.contains c

/-- the host of any other address, of which only some characters are refused -/
def plainOfChars : List Char → Except UrlFault Host
  | '[' :: cs => ofBracketed cs
  | cs => if cs.any isPlainRefused then .error .invalidDomainCharacter
    else .ok (.domain (String.ofList cs))

/-- the name of a domain; numeric addresses have none -/
def name : Host → String
  | .domain name => name
  | _ => ""

end Host
end Handoff
