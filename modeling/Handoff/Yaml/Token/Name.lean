import Handoff.Text.Bytes
import Handoff.Yaml.Glyph
import Handoff.Yaml.Token

/-!
# Names in YAML

Names of nodes, names of types, and the directives in front of a document.

* `anchorName?`     the name of a node, behind its mark;
* `tagName?`        the name of a type, from its mark on;
* `directive?`      a directive, behind its mark, and the next line.
-/

namespace Handoff.Yaml

def isNameChar (c : Char) : Bool := Chars.isAsciiAlnum c || c == '_' || c == '-'

/-- the name of a node; only some characters may stand right behind it -/
def anchorName? (gs : List Glyph) : Option (String × List Glyph) :=
  let (name, r) := spanWhile isNameChar gs
  if name.isEmpty || !(endsWord r || startsWith "?:,]\x7d%@\x60".toList.contains r) then none
  else some (String.ofList name, r)

/-! ## names of types -/

/-- the characters of the name of a type; `isVerbatim` tells whether it stands between brackets -/
def isTagChar (isVerbatim : Bool) (c : Char) : Bool :=
  isNameChar c || ";/?:@&=+$.!~*'()".toList.contains c
    || (isVerbatim && ",[]".toList.contains c)

/-- a byte that is written as a percent sign and two digits, and the rest -/
def escapedByte? : List Glyph → Option (Nat × List Glyph)
  | a :: b :: c :: r =>
    if a.char = '%' && Chars.isHexDigit b.char && Chars.isHexDigit c.char then
      some (16 * Chars.hexValue b.char + Chars.hexValue c.char, r)
    else none
  | _ => none

/-- how many bytes a character has that begins with a byte -/
def byteCount? (b : Nat) : Option Nat :=
  if b < 0x80 then some 1 else if b < 0xC0 then none
  else if b < 0xE0 then some 2 else if b < 0xF0 then some 3
  else if b < 0xF8 then some 4 else none

/-- further bytes of a character -/
def escapedRest? : Nat → List Glyph → Option (List Nat × List Glyph)
  | 0, gs => some ([], gs)
  | n + 1, gs => do
    let (b, gs) ← escapedByte? gs
    if b / 0x40 ≠ 2 then none
    let (bs, gs) ← escapedRest? n gs
    return (b :: bs, gs)

/-- a character that is written byte by byte -/
def escapedChar? (gs : List Glyph) : Option (List Nat × List Glyph) := do
  let (b, gs) ← escapedByte? gs
  let (bs, gs) ← escapedRest? ((← byteCount? b) - 1) gs
  return (b :: bs, gs)

/-- the bytes of a name and the rest; every step shortens the text, whose length bounds their
number -/
def tagBytes? (isVerbatim : Bool) (fuel : Nat) (gs : List Glyph) :
    Option (List Nat × List Glyph) :=
  match fuel, gs with
  | fuel + 1, g :: r =>
    if g.char = '%' then do
      let (bs, r) ← escapedChar? (g :: r)
      let (more, r) ← tagBytes? isVerbatim fuel r
      return (bs ++ more, r)
    else if isTagChar isVerbatim g.char then
      (tagBytes? isVerbatim fuel r).map fun (more, r) => (g.char.toNat :: more, r)
    else some ([], g :: r)
  | _, gs => some ([], gs)

/-- a name ends before a zero byte -/
def tagText? (isVerbatim : Bool) (gs : List Glyph) : Option (List Nat × List Glyph) :=
  (tagBytes? isVerbatim gs.length gs).map fun (bs, r) => (bs.takeWhile (· ≠ 0), r)

/-- a handle behind its first mark: letters and digits, and perhaps a second mark -/
def handleRest (gs : List Glyph) : List Char × List Glyph :=
  let (name, r) := spanWhile isNameChar gs
  if startsWith (· == '!') r then (name ++ ['!'], r.drop 1) else (name, r)

def isHandle (name : List Char) : Bool := name.getLast? == some '!'

/-- a name between angle brackets, behind the first of them -/
def verbatimTag? (gs : List Glyph) : Option (TagName × List Glyph) := do
  let (suffix, r) ← tagText? true gs
  if r.length = gs.length || !startsWith (· == '>') r then none
  return (⟨"", suffix⟩, r.drop 1)

/-- a name with a handle, behind the first mark of it; without a second mark, the first one is the
whole handle, and a name of nothing but that mark is no name with a handle -/
def shortTag? (gs : List Glyph) : Option (TagName × List Glyph) := do
  let (name, r) := handleRest gs
  let (suffix, rest) ← tagText? false r
  if isHandle name then
    if rest.length = r.length then none
    return (⟨String.ofList ('!' :: name), suffix⟩, rest)
  else
    let suffix := name.map Char.toNat ++ suffix
    return (if suffix.isEmpty then ⟨"", [0x21]⟩ else ⟨"!", suffix⟩, rest)

/-- the name of a type behind its mark; white space follows it, or, between brackets, a comma -/
def tagName? (inFlow : Bool) (gs : List Glyph) : Option (TagName × List Glyph) := do
  let (name, r) ← if startsWith (· == '<') gs then verbatimTag? (gs.drop 1) else shortTag? gs
  if endsWord r || (inFlow && startsWith (· == ',') r) then return (name, r) else none

/-! ## directives -/

/-- one to nine digits, and the rest -/
def versionNumber? (gs : List Glyph) : Option (Nat × List Glyph) :=
  let (digits, r) := spanWhile Chars.isAsciiDigit gs
  if digits.isEmpty || 9 < digits.length then none
  else some (digits.foldl (fun n c => 10 * n + Chars.hexValue c) 0, r)

/-- two numbers with a point between them -/
def version? (gs : List Glyph) : Option (Token × List Glyph) := do
  let (major, gs) ← versionNumber? (skipWhile isBlank gs)
  if !startsWith (· == '.') gs then none
  let (minor, gs) ← versionNumber? (gs.drop 1)
  return (.version major minor, gs)

/-- a handle and what it stands for -/
def handle? (gs : List Glyph) : Option (Token × List Glyph) := do
  let gs := skipWhile isBlank gs
  if !startsWith (· == '!') gs then none
  let (name, r) := handleRest (gs.drop 1)
  if (!name.isEmpty && !isHandle name) || !startsWith isBlank r then none
  let r := skipWhile isBlank r
  let (meaning, rest) ← tagText? true r
  if rest.length = r.length || !endsWord rest then none
  return (.handle (String.ofList ('!' :: name)) meaning, rest)

def directive? (gs : List Glyph) : Option (Token × List Glyph) := do
  let (name, r) := spanWhile isNameChar gs
  if !endsWord r then none
  let (t, r) ← if name = "YAML".toList then version? r
    else if name = "TAG".toList then handle? r else none
  return (t, ← nextLine? r)

end Handoff.Yaml
