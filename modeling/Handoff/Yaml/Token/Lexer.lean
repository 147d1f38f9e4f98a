import Handoff.Yaml.Token.Block
import Handoff.Yaml.Token.Name
import Handoff.Yaml.Token.Plain

/-!
# The tokens of a text

Collections without brackets are found by their indentation, and the key of a member by the colon
behind it.  So a token that may turn out to begin a key is remembered with its place; if a colon
follows on the same line, the key, and perhaps the beginning of a map, is put in front of it.

* `tokens?`     the tokens of a text.
-/

namespace Handoff.Yaml

/-- a token that may begin a key -/
structure PossibleKey where
  /-- nothing but a key can stand there -/
  isRequired : Bool
  /-- the number of tokens before it -/
  place : Nat
  start : Glyph

/-- how far a text has been read -/
structure Lexer where
  rest : List Glyph
  /-- the tokens so far, last first -/
  tokens : List Token := []
  count : Nat := 0
  /-- the column of the innermost collection without brackets; -1 if there is none -/
  indent : Int := -1
  /-- the columns of the collections around it -/
  outer : List Int := []
  /-- the possible key inside the innermost brackets -/
  possible : Option PossibleKey := none
  /-- the possible keys around each of the brackets -/
  around : List (Option PossibleKey) := []
  /-- a key may begin here -/
  allowsKey : Bool := true

namespace Lexer

def inFlow (l : Lexer) : Bool := !l.around.isEmpty

/-! ## possible keys -/

/-- the longest key and its white space, in characters -/
def maxKey : Nat := 1024

/-- forgets a possible key, unless it is required -/
def forget? : Option PossibleKey → Option (Option PossibleKey)
  | none => some none
  | some k => if k.isRequired then none else some none

def forgetKey? (l : Lexer) : Option Lexer :=
  (forget? l.possible).map fun possible => { l with possible }

/-- whether a key is too far away from its colon -/
def isStale (g : Glyph) (k : PossibleKey) : Bool :=
  k.start.line < g.line || k.start.index + maxKey < g.index

/-- forgets a possible key if a colon at `g` would be too far away from it -/
def forgetStale? (g : Glyph) : Option PossibleKey → Option (Option PossibleKey)
  | none => some none
  | some k => if isStale g k then forget? (some k) else some (some k)

def forgetStaleKeys? (g : Glyph) (l : Lexer) : Option Lexer := do
  let possible ← forgetStale? g l.possible
  let around ← l.around.mapM (forgetStale? g)
  return { l with possible, around }

/-- remembers that the next token, which begins at `g`, may begin a key -/
def rememberKey? (g : Glyph) (l : Lexer) : Option Lexer :=
  if l.allowsKey then
    l.forgetKey?.map fun l =>
      { l with possible := some ⟨!l.inFlow && l.indent = g.column, l.count, g⟩ }
  else some l

/-! ## tokens and collections -/

def push (t : Token) (l : Lexer) : Lexer :=
  { l with tokens := t :: l.tokens, count := l.count + 1 }

/-- puts a token in front of those behind the first `place` ones -/
def insert (place : Nat) (t : Token) (l : Lexer) : Lexer :=
  let behind := l.count - place
  { l with tokens := l.tokens.take behind ++ t :: l.tokens.drop behind, count := l.count + 1 }

/-- begins a collection without brackets, unless one has begun in this column or behind it -/
def enter (column place : Nat) (t : Token) (l : Lexer) : Lexer :=
  if l.inFlow || column ≤ l.indent then l
  else { l.insert place t with indent := column, outer := l.indent :: l.outer }

/-- the collections that end before a column: how many, and the columns of the others -/
def ending (column : Int) : Int → List Int → Nat × Int × List Int
  | indent, [] => (0, indent, [])
  | indent, o :: os =>
    if column < indent then
      let (n, rest) := ending column o os
      (n + 1, rest)
    else (0, indent, o :: os)

/-- ends the collections without brackets that begin behind a column -/
def leave (column : Int) (l : Lexer) : Lexer :=
  if l.inFlow then l
  else
    let (n, indent, outer) := ending column l.indent l.outer
    { l with tokens := List.replicate n .collectionEnd ++ l.tokens, count := l.count + n,
             indent, outer }

/-! ## white space -/

/-- skips white space and comments.  Tabs are skipped between brackets and where no key may begin;
without brackets, a key may begin on a new line. -/
def gap (inFlow : Bool) (allowsKey isComment : Bool) : List Glyph → Bool × List Glyph
  | [] => (allowsKey, [])
  | g :: r =>
    if isBreak g.char then gap inFlow (allowsKey || !inFlow) false r
    else if isComment || g.char = ' ' || (g.char = '\t' && (inFlow || !allowsKey))
        || (g.column = 0 && isByteOrderMark g.char) then gap inFlow allowsKey isComment r
    else if g.char = '#' then gap inFlow allowsKey true r
    else (allowsKey, g :: r)

def skipGap (l : Lexer) : Lexer :=
  let (allowsKey, rest) := gap l.inFlow l.allowsKey false l.rest
  { l with allowsKey, rest }

/-! ## one token

Each of these reads one token that begins at `g`; `r` is what is behind that character. -/

/-- a token that ends every collection without brackets -/
def atMargin? (t : Token) (r : List Glyph) (l : Lexer) : Option Lexer :=
  (l.leave (-1)).forgetKey?.map fun l => { l.push t with rest := r, allowsKey := false }

def openFlow? (t : Token) (g : Glyph) (r : List Glyph) (l : Lexer) : Option Lexer :=
  (l.rememberKey? g).map fun l =>
    { l.push t with
      rest := r, allowsKey := true, possible := none, around := l.possible :: l.around }

def closeFlow? (t : Token) (r : List Glyph) (l : Lexer) : Option Lexer :=
  l.forgetKey?.map fun l =>
    let l := { l.push t with rest := r, allowsKey := false }
    match l.around with
    | [] => l
    | possible :: around => { l with possible, around }

def comma? (r : List Glyph) (l : Lexer) : Option Lexer :=
  l.forgetKey?.map fun l => { l.push .comma with rest := r, allowsKey := true }

/-- the beginning of a collection whose mark stands where a key may begin -/
def enterHere? (t : Token) (g : Glyph) (l : Lexer) : Option Lexer :=
  if l.inFlow then some l
  else if l.allowsKey then some (l.enter g.column l.count t) else none

def item? (g : Glyph) (r : List Glyph) (l : Lexer) : Option Lexer := do
  let l ← (← l.enterHere? .listStart g).forgetKey?
  return { l.push .item with rest := r, allowsKey := true }

def key? (g : Glyph) (r : List Glyph) (l : Lexer) : Option Lexer := do
  let l ← (← l.enterHere? .mapStart g).forgetKey?
  return { l.push .key with rest := r, allowsKey := !l.inFlow }

/-- the colon in front of a value; a possible key before it is one -/
def value? (g : Glyph) (r : List Glyph) (l : Lexer) : Option Lexer :=
  match l.possible with
  | some k =>
    let l := (l.insert k.place .key).enter k.start.column k.place .mapStart
    some { l.push .value with rest := r, possible := none, allowsKey := false }
  | none => (l.enterHere? .mapStart g).map fun l =>
    { l.push .value with rest := r, allowsKey := !l.inFlow }

/-- a token that may begin a key, but that no key follows on the same line -/
def word? (t : Token) (g : Glyph) (r : List Glyph) (l : Lexer) : Option Lexer :=
  (l.rememberKey? g).map fun l => { l.push t with rest := r, allowsKey := false }

def anchor? (t : String → Token) (g : Glyph) (r : List Glyph) (l : Lexer) : Option Lexer :=
  (anchorName? r).bind fun (name, r) => l.word? (t name) g r

def tag? (g : Glyph) (r : List Glyph) (l : Lexer) : Option Lexer :=
  (tagName? l.inFlow r).bind fun (name, r) => l.word? (.tag name) g r

def quotedScalar? (g : Glyph) (r : List Glyph) (l : Lexer) : Option Lexer :=
  (quoted? g.char r).bind fun (text, r) => l.word? (.scalar ⟨text, false⟩) g r

def blockScalar? (isFolded : Bool) (r : List Glyph) (l : Lexer) : Option Lexer := do
  let l ← l.forgetKey?
  let (text, rest) ← Yaml.blockScalar? isFolded l.indent r
  return { l.push (.scalar ⟨text, false⟩) with rest, allowsKey := true }

/-- behind the last line of a plain scalar a key may begin -/
def plainScalar? (g : Glyph) (r : List Glyph) (l : Lexer) : Option Lexer := do
  let p ← plain? l.inFlow (l.indent + 1).toNat (g :: r)
  let l ← l.word? (.scalar ⟨String.ofList p.text, true⟩) g p.rest
  return { l with allowsKey := p.isLineEnded }

/-- the characters that no plain scalar begins with -/
def isIndicator (c : Char) : Bool :=
  isWhite c || "-?:,[]\x7b\x7d#&*!|>'\"%@\x60".toList.contains c

/-- whether a plain scalar begins with `c` before `r`: some indicators may begin one -/
def startsPlain (inFlow : Bool) (c : Char) (r : List Glyph) : Bool :=
  !isIndicator c || (!endsWord r && (c = '-' || (!inFlow && (c = '?' || c = ':'))))

/-- a token that begins with a character -/
def read? (g : Glyph) (r : List Glyph) (l : Lexer) : Option Lexer :=
  match g.char with
  | '[' => l.openFlow? .bracketOpen g r
  | '\x7b' => l.openFlow? .braceOpen g r
  | ']' => l.closeFlow? .bracketClose r
  | '\x7d' => l.closeFlow? .braceClose r
  | ',' => l.comma? r
  | '*' => l.anchor? .alias g r
  | '&' => l.anchor? .anchor g r
  | '!' => l.tag? g r
  | '\'' | '"' => l.quotedScalar? g r
  | c =>
    if c = '-' && endsWord r then l.item? g r
    else if c = '?' && (l.inFlow || endsWord r) then l.key? g r
    else if c = ':' && (l.inFlow || endsWord r) then l.value? g r
    else if c = '|' && !l.inFlow then l.blockScalar? false r
    else if c = '>' && !l.inFlow then l.blockScalar? true r
    else if startsPlain l.inFlow c r then l.plainScalar? g r
    else none

/-- a token at the beginning of a line: a directive or the bound of a document, if it is one -/
def readLine? (g : Glyph) (r : List Glyph) (l : Lexer) : Option Lexer :=
  if g.column = 0 && g.char = '%' then
    (directive? r).bind fun (t, r) => l.atMargin? t r
  else if isMarker '-' (g :: r) then l.atMargin? .documentStart (r.drop 2)
  else if isMarker '.' (g :: r) then l.atMargin? .documentEnd (r.drop 2)
  else l.read? g r

/-- the next token, in front of which collections end and possible keys are forgotten -/
def next? (g : Glyph) (r : List Glyph) (l : Lexer) : Option Lexer :=
  (l.forgetStaleKeys? g).bind fun l => (l.leave g.column).readLine? g r

/-- reads the rest of a text; every token shortens it, so that its length bounds their number -/
def run? (fuel : Nat) (l : Lexer) : Option Lexer :=
  let l := l.skipGap
  match fuel, l.rest with
  | _, [] => (l.leave (-1)).forgetKey?
  | fuel + 1, g :: r => (l.next? g r).bind (run? fuel)
  | 0, _ => none

end Lexer

/-- the tokens of a text -/
def tokens? (s : String) : Option (List Token) := do
  let gs ← glyphs? s
  let l ← Lexer.run? gs.length { rest := gs }
  return l.tokens.reverse

end Handoff.Yaml
