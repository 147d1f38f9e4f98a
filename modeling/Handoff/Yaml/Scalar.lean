import Handoff.Decimal.Binary
import Handoff.Decimal.Reader
import Handoff.Json.Basic
import Handoff.Text.Chars

/-!
# Plain scalars

* `resolve?`         what a plain scalar stands for: null, a truth value, a number or a text.
-/

namespace Handoff.Yaml

/-! ## numbers -/

def digitValue? (base : Nat) (c : Char) : Option Nat :=
  if Chars.isHexDigit c && Chars.hexValue (c.toLower) < base then some (Chars.hexValue c.toLower)
  else none

/-- a number of at least one digit -/
def natInBase? (base : Nat) (cs : List Char) : Option Nat :=
  if cs.isEmpty then none
  else (cs.mapM (digitValue? base)).map fun ds => ds.foldl (fun n d => base * n + d) 0

/-- several digits that begin with a zero are a text -/
def isZeroPadded (digits : List Char) : Bool :=
  1 < digits.length && digits.head? == some '0' && digits.all Chars.isAsciiDigit

/-- an unsigned integer: hexadecimal, octal, binary or decimal -/
def magnitude? (cs : List Char) : Option Nat :=
  match cs with
  | '0' :: 'x' :: r => natInBase? 16 r
  | '0' :: 'o' :: r => natInBase? 8 r
  | '0' :: 'b' :: r => natInBase? 2 r
  | _ => if isZeroPadded cs then none else natInBase? 10 cs

def integer? (cs : List Char) : Option Int :=
  match cs with
  | '-' :: r => (magnitude? r).map fun n => -(n : Int)
  | '+' :: r => (magnitude? r).map fun n => (n : Int)
  | _ => (magnitude? cs).map fun n => (n : Int)

/-- a finite number; infinities and what is not a number have names of their own -/
def real? (cs : List Char) : Option Float :=
  let (negative, digits) := Decimal.splitSign cs
  if [".inf".toList, ".Inf".toList, ".INF".toList].contains digits then
    some (if negative then -1.0 / 0.0 else 1.0 / 0.0)
  else if [".nan".toList, ".NaN".toList, ".NAN".toList].contains cs then some (0.0 / 0.0)
  else match digits with
    | '+' :: _ | '-' :: _ => none
    | _ => (Decimal.parseChars? cs).filter Float.isFinite

/-- a number that is not finite has no value -/
def ofReal (x : Float) : Json := if x.isFinite then .ofFloat x else .null

/-- the value of an integer of up to 128 bits, of which there is one for 64 bits only -/
def integerValue? (cs : List Char) : Option (Option Json) :=
  match integer? cs with
  | some n =>
    if -Decimal.twoTo 63 ≤ n && n < Decimal.twoTo 64 then some (some (.num (.int n)))
    else if -Decimal.twoTo 127 ≤ n && n < Decimal.twoTo 128 then some none
    else none
  | none => none

/-! ## values -/

def truth? (s : String) : Option Bool :=
  if ["true", "True", "TRUE"].contains s then some true
  else if ["false", "False", "FALSE"].contains s then some false else none

def isNullText (s : String) : Bool := ["~", "null", "Null", "NULL"].contains s

/-- what a plain scalar stands for; what is no null, truth value or number is a text -/
def resolve? (cs : List Char) : Option Json :=
  let s := String.ofList cs
  if s = "" || isNullText s then some .null
  else match truth? s, integerValue? cs with
    | some b, _ => some (.bool b)
    | none, some n? => n?
    | none, none =>
      if isZeroPadded (Decimal.splitSign cs).2 then some (.str s)
      else some (((real? cs).map ofReal).getD (.str s))

end Handoff.Yaml
