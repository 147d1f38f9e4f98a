import Handoff.Text.Chars

/-!
# Characters with their places

The layout of a YAML text decides what it means, so its characters are read together with their
places.  There are several ways to end a line; those that stand for nothing else are read as one
and the same character.

* `glyphs?`       the characters of a text, `none` if one of them is not allowed in any text;
* `endsWord`      nothing, a blank or a line end comes next;
* `isBoundary`    a line that begins or ends a document comes next.
-/

namespace Handoff.Yaml

structure Glyph where
  char : Char
  line : Nat
  column : Nat
  /-- the number of characters before it -/
  index : Nat
deriving Repr

/-! ## reading -/

/-- characters that can be shown, and line ends -/
def isAllowed (c : Char) : Bool :=
  let n := c.toNat
  c == '\t' || c == '\n' || c == '\r' || (0x20 ≤ n && n ≤ 0x7E) || n == 0x85
    || (0xA0 ≤ n && n ≤ 0xFFFD) || 0x10000 ≤ n

def isByteOrderMark (c : Char) : Bool := c.toNat = 0xFEFF

/-- the characters that end a line -/
def isBreak (c : Char) : Bool := c == '\n' || c.toNat = 0x2028 || c.toNat = 0x2029

/-- a carriage return, and a line feed behind it, end a line like a line feed; so does the character
for the next line -/
def place (line column index : Nat) : List Char → List Glyph
  | [] => []
  | '\r' :: '\n' :: cs => ⟨'\n', line, column, index⟩ :: place (line + 1) 0 (index + 2) cs
  | c :: cs =>
    let c := if c = '\r' || c.toNat = 0x85 then '\n' else c
    if isBreak c then ⟨c, line, column, index⟩ :: place (line + 1) 0 (index + 1) cs
    else ⟨c, line, column, index⟩ :: place line (column + 1) (index + 1) cs

/-- a mark of the order of bytes at the beginning does not belong to the text -/
def dropByteOrderMark : List Char → List Char
  | [] => []
  | c :: cs => if isByteOrderMark c then cs else c :: cs

def glyphs? (s : String) : Option (List Glyph) :=
  let cs := dropByteOrderMark s.toList
  if cs.all isAllowed then some (place 0 0 0 cs) else none

/-! ## looking ahead -/

def isBlank (c : Char) : Bool := c == ' ' || c == '\t'

/-- blanks and line ends -/
def isWhite (c : Char) : Bool := isBlank c || isBreak c

def chars (gs : List Glyph) : List Char := gs.map Glyph.char

def startsWith (p : Char → Bool) : List Glyph → Bool
  | [] => false
  | g :: _ => p g.char

def endsWord : List Glyph → Bool
  | [] => true
  | g :: _ => isWhite g.char

def endsLine : List Glyph → Bool
  | [] => true
  | g :: _ => isBreak g.char

def skipWhile (p : Char → Bool) (gs : List Glyph) : List Glyph := gs.dropWhile fun g => p g.char

/-- the characters up to the first that does not satisfy `p`, and the rest -/
def spanWhile (p : Char → Bool) (gs : List Glyph) : List Char × List Glyph :=
  (chars (gs.takeWhile fun g => p g.char), skipWhile p gs)

/-- three times the same mark at the beginning of a line -/
def isMarker (mark : Char) (gs : List Glyph) : Bool :=
  match gs with
  | a :: b :: c :: r =>
    a.column = 0 && a.char = mark && b.char = mark && c.char = mark && endsWord r
  | _ => false

def isBoundary (gs : List Glyph) : Bool := isMarker '-' gs || isMarker '.' gs

/-- the rest of a line: blanks and a comment -/
def skipComment (gs : List Glyph) : List Glyph :=
  let gs := skipWhile isBlank gs
  if startsWith (· == '#') gs then skipWhile (fun c => !isBreak c) gs else gs

/-- the next line, if nothing but blanks and a comment is left of this one -/
def nextLine? (gs : List Glyph) : Option (List Glyph) :=
  let gs := skipComment gs
  if endsLine gs then some (gs.drop 1) else none

end Handoff.Yaml
