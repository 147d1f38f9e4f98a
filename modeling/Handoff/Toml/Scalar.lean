import Handoff.Decimal.Binary
import Handoff.Decimal.Reader
import Handoff.Text.Chars

/-!
# Scalars of TOML

* `string?`    a text between quotes, on one line or, between three quotes, on several;
* `number?`    an integer or a real number.
-/

namespace Handoff.Toml

def isGap (c : Char) : Bool := c == ' ' || c == '\t'

def skipGap (cs : List Char) : List Char := cs.dropWhile isGap

/-! ## texts -/

def escapes : List (Char × Char) := [
  ('b', '\x08'), ('t', '\t'), ('n', '\n'), ('f', '\x0c'), ('r', '\r'), ('"', '"'), ('\\', '\\')]

/-- the character with a code of `width` digits, and the rest -/
def coded? (width : Nat) (cs : List Char) : Option (Char × List Char) :=
  let digits := cs.take width
  if digits.length = width && digits.all Chars.isHexDigit then
    let n := digits.foldl (fun n c => 16 * n + Chars.hexValue c) 0
    if n.isValidChar then some (Char.ofNat n, cs.drop width) else none
  else none

/-- the character of an escape, behind its backslash, and the rest -/
def escape? : List Char → Option (Char × List Char)
  | 'u' :: cs => coded? 4 cs
  | 'U' :: cs => coded? 8 cs
  | c :: cs => (escapes.lookup c).map fun e => (e, cs)
  | [] => none

/-- a text on one line behind its opening quote; `acc` holds what was read, last first -/
def basic? (fuel : Nat) (acc : List Char) (cs : List Char) : Option (String × List Char) :=
  match fuel, cs with
  | _, '"' :: r => some (String.ofList acc.reverse, r)
  | fuel + 1, '\\' :: r => (escape? r).bind fun (c, r) => basic? fuel (c :: acc) r
  | _, '\n' :: _ => none
  | fuel + 1, c :: r => basic? fuel (c :: acc) r
  | _, _ => none

/-- how many quotes come first, the first three of which close a text on several lines -/
def closing? (quote : Char) (cs : List Char) : Option (Nat × List Char) :=
  let quotes := (cs.takeWhile (· == quote)).length
  if quotes < 3 then none
  else
    let extra := min (quotes - 3) 2
    some (extra, cs.drop (3 + extra))

/-- a text on several lines; a backslash at the end of a line drops all white space behind it -/
def basicLines? (fuel : Nat) (acc : List Char) (cs : List Char) : Option (String × List Char) :=
  match fuel with
  | 0 => none
  | fuel + 1 =>
    match closing? '"' cs with
    | some (extra, r) => some (String.ofList (acc.reverse ++ List.replicate extra '"'), r)
    | none =>
      match cs with
      | [] => none
      | '\\' :: r =>
        match skipGap r with
        | '\n' :: r => basicLines? fuel acc (r.dropWhile fun c => isGap c || c == '\n')
        | _ => (escape? r).bind fun (c, r) => basicLines? fuel (c :: acc) r
      | c :: r => basicLines? fuel (c :: acc) r

/-- a text on several lines without escapes -/
def literalLines? (acc : List Char) : List Char → Option (String × List Char)
  | [] => none
  | c :: cs =>
    match closing? '\'' (c :: cs) with
    | some (extra, r) => some (String.ofList (acc.reverse ++ List.replicate extra '\''), r)
    | none => literalLines? (c :: acc) cs

def dropLineEnd : List Char → List Char
  | '\n' :: cs => cs
  | cs => cs

/-- a text on one line -/
def lineString? : List Char → Option (String × List Char)
  | '"' :: r => basic? r.length [] r
  | '\'' :: r =>
    match Chars.cut? '\'' r with
    | some (s, r) => if s.contains '\n' then none else some (String.ofList s, r)
    | none => none
  | _ => none

def string? : List Char → Option (String × List Char)
  | '"' :: '"' :: '"' :: r => basicLines? r.length [] (dropLineEnd r)
  | '\'' :: '\'' :: '\'' :: r => literalLines? [] (dropLineEnd r)
  | cs => lineString? cs

/-! ## numbers -/

inductive Number where
  | int (n : Int)
  | real (x : Float)
deriving Repr

/-- digits, between which there may be single underscores -/
def digits? (isDigit : Char → Bool) (cs : List Char) : Option (List Char) :=
  let runs := Chars.splitOn '_' cs
  if runs.all fun r => !r.isEmpty && r.all isDigit then some runs.flatten else none

def decimal? (cs : List Char) : Option (List Char) := digits? Chars.isAsciiDigit cs

/-- digits without a zero before them -/
def whole? (cs : List Char) : Option (List Char) :=
  (decimal? cs).filter fun ds => ds.length = 1 || ds.head? != some '0'

def inBase? (base : Nat) (cs : List Char) : Option Int :=
  (digits? (fun c => Chars.isHexDigit c && Chars.hexValue c < base) cs).map fun ds =>
    ((ds.foldl (fun n c => base * n + Chars.hexValue c) 0 : Nat) : Int)

def magnitude? (cs : List Char) : Option Nat := (whole? cs).map Decimal.natOfDigits

/-- integers take 64 bits -/
def int? (cs : List Char) : Option Int :=
  let n? := match cs with
    | '0' :: 'x' :: r => inBase? 16 r
    | '0' :: 'o' :: r => inBase? 8 r
    | '0' :: 'b' :: r => inBase? 2 r
    | '-' :: r => (magnitude? r).map fun n => -(n : Int)
    | '+' :: r => (magnitude? r).map fun n => (n : Int)
    | r => (magnitude? r).map fun n => (n : Int)
  n?.filter fun n => -Decimal.twoTo 63 ≤ n && n < Decimal.twoTo 63

def isExponentMark (c : Char) : Bool := c == 'e' || c == 'E'

def exponent? : List Char → Option Int
  | [] => some 0
  | _ :: cs =>
    let (negative, ds) := Decimal.splitSign cs
    (decimal? ds).map fun ds =>
      let n : Int := Decimal.natOfDigits ds
      if negative then -n else n

/-- a number with a point, an exponent or both; no positive one is too large to be finite -/
def real? (cs : List Char) : Option Float := do
  let (negative, body) := Decimal.splitSign cs
  let signed := fun x : Float => if negative then -x else x
  if body = ['i', 'n', 'f'] then return signed (1.0 / 0.0)
  if body = ['n', 'a', 'n'] then return 0.0 / 0.0
  let mantissa := body.takeWhile fun c => !isExponentMark c
  let exponent ← exponent? (body.dropWhile fun c => !isExponentMark c)
  let (whole, fraction) ← match Chars.cut? '.' mantissa with
    | some (a, b) => do pure (← whole? a, ← decimal? b)
    | none => do pure (← whole? mantissa, [])
  if fraction.isEmpty && mantissa.length = body.length then none
  let x := Decimal.ofScan ⟨whole, fraction, exponent⟩
  if x.isInf && !negative then none else return signed x

def number? (cs : List Char) : Option Number :=
  match int? cs with
  | some n => some (.int n)
  | none => (real? cs).map .real

end Handoff.Toml
