import Handoff.Yaml.Glyph

/-!
# Quoted scalars

A quoted scalar may run over several lines.  A line end in it stands for a blank, and further ones
behind it for themselves.

* `quoted?`     the text behind an opening quote, and the rest behind the closing one;
* `gapText`     what blanks and line ends between words stand for.

The reader recurses on a bound that is computed from the length of the text, which every step
shortens.
-/

namespace Handoff.Yaml

/-! ## line ends -/

/-- what the line ends between two words stand for -/
def foldBreaks : List Char → List Char
  | ['\n'] => [' ']
  | '\n' :: more => more
  | breaks => breaks

/-- what white space between two words stands for; blanks beside a line end do not count -/
def gapText (white : List Char) : List Char :=
  match white.filter isBreak with
  | [] => white
  | breaks => foldBreaks breaks

/-! ## escapes -/

/-- the characters behind a backslash that stand for one other -/
def escapes : List (Char × Nat) := [
  ('0', 0), ('a', 7), ('b', 8), ('t', 9), ('\t', 9), ('n', 10), ('v', 11), ('f', 12), ('r', 13),
  ('e', 27), (' ', 32), ('"', 34), ('/', 47), ('\\', 92), ('N', 0x85), ('_', 0xA0), ('L', 0x2028),
  ('P', 0x2029)]

/-- how many hexadecimal digits follow a letter -/
def escapeWidths : List (Char × Nat) := [('x', 2), ('u', 4), ('U', 8)]

def hexNumber (cs : List Char) : Nat := cs.foldl (fun n c => 16 * n + Chars.hexValue c) 0

/-- the character of an escape, behind its backslash, and the rest -/
def escape? : List Glyph → Option (Char × List Glyph)
  | [] => none
  | g :: r =>
    match escapes.lookup g.char, escapeWidths.lookup g.char with
    | some n, _ => some (Char.ofNat n, r)
    | none, some width =>
      let digits := chars (r.take width)
      if digits.length = width && digits.all Chars.isHexDigit
          && (hexNumber digits).isValidChar then
        some (Char.ofNat (hexNumber digits), r.drop width)
      else none
    | none, none => none

/-! ## scalars -/

/-- the text of a gap that begins with white space, or with the line end behind a backslash, and the
rest; no document may begin or end inside quotes -/
def quotedGap? (isEscaped : Bool) (gs : List Glyph) : Option (List Char × List Glyph) :=
  let (white, r) := spanWhile isWhite gs
  if isBoundary r then none
  else some (if isEscaped then white.filter isBreak else gapText white, r)

/-- the rest of a text behind its opening quote; `acc` holds what was read, last first -/
def doubleQuoted? (fuel : Nat) (acc : List Char) (gs : List Glyph) :
    Option (List Char × List Glyph) :=
  match fuel, gs with
  | fuel + 1, g :: r =>
    if g.char = '"' then some (acc.reverse, r)
    else if isWhite g.char then
      (quotedGap? false (g :: r)).bind fun (text, r) => doubleQuoted? fuel (text.reverse ++ acc) r
    else if g.char = '\\' then
      if startsWith isBreak r then
        (quotedGap? true (r.drop 1)).bind fun (text, r) =>
          doubleQuoted? fuel (text.reverse ++ acc) r
      else (escape? r).bind fun (c, r) => doubleQuoted? fuel (c :: acc) r
    else doubleQuoted? fuel (g.char :: acc) r
  | _, _ => none

/-- between single quotes, a quote is written twice -/
def singleQuoted? (fuel : Nat) (acc : List Char) (gs : List Glyph) :
    Option (List Char × List Glyph) :=
  match fuel, gs with
  | fuel + 1, g :: r =>
    if g.char = '\'' then
      if startsWith (· == '\'') r then singleQuoted? fuel ('\'' :: acc) (r.drop 1)
      else some (acc.reverse, r)
    else if isWhite g.char then
      (quotedGap? false (g :: r)).bind fun (text, r) => singleQuoted? fuel (text.reverse ++ acc) r
    else singleQuoted? fuel (g.char :: acc) r
  | _, _ => none

/-- the text behind an opening quote -/
def quoted? (quote : Char) (gs : List Glyph) : Option (String × List Glyph) :=
  (if quote = '"' then doubleQuoted? gs.length [] gs else singleQuoted? gs.length [] gs).map
    fun (text, r) => (String.ofList text, r)

end Handoff.Yaml
