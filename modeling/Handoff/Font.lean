import Handoff.Decimal.Reader
import Handoff.Styled.Node
import Handoff.Text.Bytes

/-!
# Fonts

The stylesheet that loads the fonts of a tree, each with the weights in which it is used.
-/

namespace Handoff.Font

def isQuoteOrBlank (c : Char) : Bool := c == '\'' || c == '"' || Chars.isBlank c

/-- the first of the families, without quotes -/
def firstFamily (families : String) : String :=
  Text.trimBy isQuoteOrBlank ((Text.splitOn ',' families).headD "")

/-- a weight that is no number is that of plain text -/
def weightOf (s : Styles) : Nat :=
  match (s.text? "font-weight").bind Decimal.parse? with
  | some w => w.round.toUInt32.toNat
  | none => 400

/-- family and weight of a node that has a font -/
def use? (n : StyledNode) : Option (String × Nat) :=
  match (n.styles.text? "font-family").map firstFamily with
  | some family => if family = "" then none else some (family, weightOf n.styles)
  | none => none

/-- adds a number to an ascending list that does not repeat -/
def insertWeight (w : Nat) : List Nat → List Nat
  | [] => [w]
  | v :: vs => if w < v then w :: v :: vs else if w = v then v :: vs else v :: insertWeight w vs

def fonts (root : StyledNode) : Dict (List Nat) :=
  (root.preOrder.filterMap use?).foldl
    (fun d e => d.set e.1 (insertWeight e.2 ((d.get? e.1).getD []))) ∅

/-- letters, digits and a few marks stay, a blank becomes a plus, other bytes are numbered -/
def encodeByte (b : Nat) : String :=
  let c := Char.ofNat b
  if b < 128 && (Chars.isAsciiAlnum c || c == '*' || c == '-' || c == '.' || c == '_') then
    String.singleton c
  else if b = 32 then "+"
  else String.ofList (Bytes.percentByte b)

def encode (s : String) : String := String.join ((Bytes.utf8 s).map encodeByte)

def familyQuery (family : String) (weights : List Nat) : String :=
  "family=" ++ encode family ++ ":wght@" ++ String.intercalate ";" (weights.map toString)

/-- the address of the stylesheet, if there are fonts at all -/
def stylesheetUrl? (root : StyledNode) : Option String :=
  let used := fonts root
  if used.isEmpty then none
  else some ("https://fonts.googleapis.com/css2?"
    ++ String.intercalate "&" (used.entries.map fun e => familyQuery e.1 e.2) ++ "&display=swap")

end Handoff.Font
