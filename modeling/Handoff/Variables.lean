import Handoff.Decimal.Binary
import Handoff.Design.Reader
import Handoff.Fault
import Handoff.Json.Printer
import Handoff.Naming.Case
import Handoff.Style

/-!
# Design variables

A table of variables gives names and values to the ids that colors and other properties are bound
to.  Every id has a custom property of CSS: it is named for the variable, if the id is in the
table, and else made from the id itself.

* `Variables.lookup?`       an id is found in full, or by the pair of numbers it ends in;
* `Variables.customProperty` the name of its custom property, without the two dashes;
* `Variables.reference`     a use of that property, with a fallback value;
* `Variables.bound`         a value, or the variable it is bound to with that value as fallback;
* `Variables.rootBlock`     the definitions of all of them.
-/

namespace Handoff

inductive VariableKind where
  | color
  | spacing
  | fontSize
  | borderRadius
  | size
  | other
deriving DecidableEq, Repr, Inhabited

namespace VariableKind

def names : List (String × VariableKind) := [
  ("color", .color), ("spacing", .spacing), ("fontSize", .fontSize),
  ("borderRadius", .borderRadius), ("size", .size)]

def name : VariableKind → String
  | .color => "color"
  | .spacing => "spacing"
  | .fontSize => "fontSize"
  | .borderRadius => "borderRadius"
  | .size => "size"
  | .other => "other"

/-- numbers of these kinds are pixels -/
def isLength : VariableKind → Bool
  | .spacing | .fontSize | .borderRadius | .size => true
  | .color | .other => false

end VariableKind

structure Variable where
  name : String
  value : Json := .null
  kind : VariableKind := .other
deriving Repr, Inhabited

namespace Variable

def ofJson? : Decoder Variable := fun v => do
  let r ← Record.ofJson? ["name", "value", "type"] v
  return {
    name := ← r.required "name" Decode.string
    value := (r.get? "value").getD .null
    kind := ← r.orElse "type" .other (Decode.oneOfOr VariableKind.names .other) }

def toJson (v : Variable) : Json :=
  .obj [("name", .str v.name), ("value", v.value), ("type", .str v.kind.name)]

/-- a color, written directly or as the member of that name; it has at least a red channel -/
def colorOf? (v : Json) : Option Color :=
  let candidate := (v.get? "color").getD v
  if (candidate.get? "r").isSome then Decode.color candidate else none

/-- a value that was written as an object: a color with its opacity, or a nested value -/
def objectValue (v : Json) : String :=
  match colorOf? v with
  | some c => c.css (c.a * ((v.get? "opacity").bind Json.asFloat?).getD 1.0)
  | none => match v.get? "value" with
    | some (.str s) => s
    | some .null | none => "unset"
    | some other => other.render

/-- the value as CSS writes it -/
def cssValue (v : Variable) : String :=
  match v.value with
  | .str s => s
  | .num n => if v.kind.isLength then px n.toFloat else Decimal.trimmed n.toFloat
  | .obj _ => objectValue v.value
  | .bool b => if b then "true" else "false"
  | .null | .arr _ => "unset"

end Variable

/-! ## ids -/

def isDecimalNumber (cs : List Char) : Bool := !cs.isEmpty && cs.all Chars.isAsciiDigit

/-- the pair of numbers around a colon that an id ends in -/
def shortIdChars? (cs : List Char) : Option (List Char) := do
  let tail := ((Chars.splitWhere (fun c => c == '/' || c == ' ') cs).getLast?).getD cs
  let tail := (Chars.dropPrefix? "VariableID:".toList tail).getD tail
  let (left, right) ← Chars.cut? ':' tail
  if isDecimalNumber left && isDecimalNumber right then some tail else none

def shortId? (id : String) : Option String := (shortIdChars? id.toList).map String.ofList

/-- the 16-bit units of a character -/
def utf16Units (c : Char) : List Nat :=
  if c.toNat < 0x10000 then [c.toNat]
  else [0xD800 + (c.toNat - 0x10000) / 0x400, 0xDC00 + (c.toNat - 0x10000) % 0x400]

/-- a polynomial in 31 over the 16-bit units, in signed words of 32 bits -/
def idHash (id : String) : Nat :=
  ((id.toList.flatMap utf16Units).foldl
    (fun (h : Int) (u : Nat) => Int.bmod (31 * h + u) (Decimal.twoTo 32)) 0).natAbs

/-- a name made from the id -/
def derivedProperty (id : String) : String :=
  "var-" ++ match shortId? id with
    | some short => Text.replaceChar ':' "-" short
    | none => String.ofList (Nat.toDigits 16 (idHash id))

/-! ## tables -/

abbrev Variables := Dict Variable

namespace Variables

/-- the table under the key `variables`, where that is a table -/
def wrapped? (v : Json) : Option Variables :=
  (v.get? "variables").bind (Decode.dict Variable.ofJson?)

/-- the table is the document itself or its member `variables` -/
def ofJson (v : Json) : Except Fault Variables :=
  match (wrapped? v).orElse fun _ => Decode.dict Variable.ofJson? v with
  | some vs => .ok vs
  | none => .error (.document .wrongShape)

def toJson (vs : Variables) : Json := .obj (vs.entries.map fun e => (e.1, e.2.toJson))

/-- the variable with this id, with its short form, or with an id of the same short form -/
def lookup? (vs : Variables) (id : String) : Option Variable :=
  (vs.get? id).orElse fun _ => (shortId? id).bind fun short =>
    (vs.get? short).orElse fun _ =>
      (vs.entries.find? fun e => shortId? e.1 == some short).map Prod.snd

def customProperty (vs : Variables) (id : String) : String :=
  let named := ((vs.lookup? id).map fun v => Naming.cssName v.name).getD ""
  if named = "" then derivedProperty id else named

def reference (vs : Variables) (id fallback : String) : String :=
  "var(--" ++ vs.customProperty id ++ ", " ++ fallback ++ ")"

/-- a value, as the fallback of the variable that the property of a node is bound to, if any -/
def bound (vs : Variables) (n : NodeData) (property value : String) : String :=
  match n.boundVariableId? property with
  | some id => vs.reference id value
  | none => value

/-- nothing for an empty table -/
def rootBlock (vs : Variables) : String :=
  if vs.isEmpty then ""
  else
    String.intercalate "\n" ([":root \x7b"]
      ++ vs.entries.map (fun e => "  --" ++ vs.customProperty e.1 ++ ": " ++ e.2.cssValue ++ ";")
      ++ ["\x7d"])

end Variables
end Handoff
