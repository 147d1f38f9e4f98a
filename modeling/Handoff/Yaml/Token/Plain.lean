import Handoff.Yaml.Token.Quoted

/-!
# Plain scalars

A plain scalar ends where a comment, a colon before white space or, between brackets, a bracket or a
comma comes next.  It goes on in further lines as long as these are indented.

* `plain?`     a plain scalar and the rest, with the line ends behind it.
-/

namespace Handoff.Yaml

/-- the brackets and the comma between the parts of a collection -/
def isFlowMark (c : Char) : Bool := ",[]\x7b\x7d".toList.contains c

/-- the characters up to white space or the end of the scalar, and the rest; between brackets, a
colon has to be followed by white space or by a part of the scalar -/
def word? (inFlow : Bool) : List Glyph → Option (List Char × List Glyph)
  | [] => some ([], [])
  | g :: r =>
    if isWhite g.char then some ([], g :: r)
    else if g.char = ':' && inFlow && startsWith (fun c => isFlowMark c || c == '?') r then none
    else if (g.char = ':' && endsWord r) || (inFlow && isFlowMark g.char) then some ([], g :: r)
    else (word? inFlow r).map fun (text, rest) => (g.char :: text, rest)

/-- a tab may not stand where a line has to be indented -/
def hasTabIndent (indent : Nat) (white : List Glyph) : Bool :=
  (white.dropWhile fun g => !isBreak g.char).any fun g => g.char = '\t' && g.column < indent

/-- whether a line is not indented as far as the lines of a scalar have to be -/
def isOutdented (indent : Nat) : List Glyph → Bool
  | [] => false
  | g :: _ => g.column < indent

/-- what is left of a scalar -/
structure PlainRest where
  text : List Char
  rest : List Glyph
  /-- line ends behind the scalar have been read -/
  isLineEnded : Bool

/-- what is left of a scalar whose lines are indented by at least `indent`; `gap` is the white space
before the next word, which counts only if there is one -/
def plainRest? (inFlow : Bool) (indent : Nat) (fuel : Nat) (gap : List Char) (gs : List Glyph) :
    Option PlainRest :=
  let done : PlainRest := ⟨[], gs, gap.any isBreak⟩
  match fuel with
  | 0 => none
  | fuel + 1 =>
    if isBoundary gs || startsWith (· == '#') gs then some done
    else match word? inFlow gs with
      | none => none
      | some (word, r) =>
        let white := r.takeWhile fun g => isWhite g.char
        let behind := r.drop white.length
        let text := if word.isEmpty then [] else gapText gap ++ word
        let gap := if word.isEmpty then gap else []
        if white.isEmpty then some ⟨text, r, gap.any isBreak⟩
        else if hasTabIndent indent white then none
        else if !inFlow && isOutdented indent behind then
          some ⟨text, behind, (chars white).any isBreak⟩
        else (plainRest? inFlow indent fuel (chars white) behind).map fun p =>
          { p with text := text ++ p.text }

/-- a plain scalar whose further lines are indented by at least `indent` -/
def plain? (inFlow : Bool) (indent : Nat) (gs : List Glyph) : Option PlainRest :=
  plainRest? inFlow indent (gs.length + 1) [] gs

end Handoff.Yaml
