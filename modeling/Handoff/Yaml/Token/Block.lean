import Handoff.Yaml.Glyph

/-!
# Block scalars

A block scalar is a text of whole lines behind a header.  Its lines are indented by the same number
of columns, which the header gives or the first line that is not empty.  In a folded scalar the end
of a line stands for a blank, unless one of the lines beside it is indented further.

* `blockScalar?`     the text behind the bar that begins a block scalar, and the rest.
-/

namespace Handoff.Yaml

/-! ## headers -/

/-- what becomes of the line ends after the last line -/
inductive Chomp where
  | clip
  | strip
  | keep
deriving DecidableEq, Repr

/-- how a text ends, and by how many columns its lines are indented more than those around it; zero
if that is not given -/
structure BlockHeader where
  chomp : Chomp := .clip
  extra : Nat := 0

def chomp? (c : Char) : Option Chomp :=
  if c = '+' then some .keep else if c = '-' then some .strip else none

def isDigit : List Glyph → Bool := startsWith Chars.isAsciiDigit

/-- a digit that is not zero -/
def extra? : List Glyph → Option (Nat × List Glyph)
  | [] => none
  | g :: r => if g.char = '0' then none else some (Chars.hexValue g.char, r)

/-- the two parts of a header come in any order, and each may be missing -/
def blockHeader? (gs : List Glyph) : Option (BlockHeader × List Glyph) :=
  match gs with
  | [] => some ({}, [])
  | g :: r =>
    match chomp? g.char with
    | some chomp =>
      if isDigit r then (extra? r).map fun (extra, r) => (⟨chomp, extra⟩, r)
      else some ({ chomp }, r)
    | none =>
      if isDigit gs then (extra? gs).map fun (extra, r) =>
        match r with
        | g :: r' => match chomp? g.char with
          | some chomp => (⟨chomp, extra⟩, r')
          | none => ({ extra }, r)
        | [] => ({ extra }, [])
      else some ({}, gs)

/-! ## lines -/

/-- the empty lines in front of a line: their ends, the most columns that one of them or the line is
indented by, and the rest.  Indentation is skipped up to column `indent`, or as far as it goes if
that is zero, and has no tabs. -/
def emptyLines? (indent : Nat) (most : Nat) : List Glyph → Option (List Char × Nat × List Glyph)
  | [] => some ([], most, [])
  | g :: r =>
    let isIndent := indent = 0 || g.column < indent
    if isIndent && g.char = ' ' then emptyLines? indent most r
    else
      let most := max most g.column
      if isIndent && g.char = '\t' then none
      else if isBreak g.char then
        (emptyLines? indent most r).map fun (breaks, rest) => (g.char :: breaks, rest)
      else some ([], most, g :: r)

/-- what has been read of a block scalar -/
structure BlockText where
  /-- the lines, the last one without its end -/
  text : List Char := []
  /-- the end of the last line -/
  lineEnd : List Char := []
  /-- the ends of the empty lines behind it -/
  breaks : List Char := []
  /-- the last line begins with a blank -/
  isSpaced : Bool := false

/-- what stands between the last line and the next one -/
def BlockText.joint (t : BlockText) (isFolded isSpaced : Bool) : List Char :=
  if isFolded && t.lineEnd = ['\n'] && !t.isSpaced && !isSpaced then
    (if t.breaks.isEmpty then [' '] else t.breaks)
  else t.lineEnd ++ t.breaks

def BlockText.close (t : BlockText) : Chomp → List Char
  | .strip => t.text
  | .clip => t.text ++ t.lineEnd
  | .keep => t.text ++ t.lineEnd ++ t.breaks

/-- reads the lines that begin in column `indent` -/
def blockLines? (isFolded : Bool) (indent : Nat) (fuel : Nat) (t : BlockText) (gs : List Glyph) :
    Option (BlockText × List Glyph) :=
  match fuel, gs with
  | fuel + 1, g :: r =>
    if g.column ≠ indent then some (t, g :: r)
    else
      let isSpaced := isBlank g.char
      let (line, r) := spanWhile (fun c => !isBreak c) (g :: r)
      match emptyLines? indent 0 (r.drop 1) with
      | none => none
      | some (breaks, _, rest) =>
        let text := t.text ++ t.joint isFolded isSpaced ++ line
        blockLines? isFolded indent fuel ⟨text, chars (r.take 1), breaks, isSpaced⟩ rest
  | _, gs => some (t, gs)

/-- a block scalar behind its bar, where the lines around it are indented by `indent` columns -/
def blockScalar? (isFolded : Bool) (indent : Int) (gs : List Glyph) :
    Option (String × List Glyph) := do
  let (header, gs) ← blockHeader? gs
  let gs ← nextLine? gs
  let given := if header.extra = 0 then 0 else (max indent 0).toNat + header.extra
  let (breaks, most, gs) ← emptyLines? given 0 gs
  let columns := if given = 0 then max (max most (indent + 1).toNat) 1 else given
  let (t, gs) ← blockLines? isFolded columns gs.length { breaks } gs
  return (String.ofList (t.close header.chomp), gs)

end Handoff.Yaml
