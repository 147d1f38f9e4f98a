import Handoff.Unicode.Composition
import Handoff.Unicode.Direction
import Handoff.Url.DomainMapping
import Handoff.Url.Punycode

/-!
# Domains

A domain is a list of labels between full stops.  Its characters are mapped and composed first; then
every label has to be one that can be shown without doubt about what it is.  A label that is not
ASCII is kept in its encoded form, and one that is given in that form has to stand for a label that
mapping and composing leave as it is.

* `ascii?`    the form of a domain in which it is looked up.
-/

namespace Handoff.Domain

/-- the characters of ASCII that no domain has -/
def isRefusedAscii (c : Char) : Bool :=
  c.toNat ≤ 0x20 || c.toNat = 0x7F || "%#/:<>?@[\\]^|".toList.contains c

/-- a text with its characters mapped and composed -/
def usual? (cs : List Char) : Option (List Char) :=
  (cs.mapM mapping?).map fun parts => Unicode.compose parts.flatten

/-! ## labels -/

/-- the mark of an encoded label -/
def encodedMark : List Char := ['x', 'n', '-', '-']

/-- the longest encoded form that is read, without its mark -/
def maxEncoded : Nat := 2000

/-- the most characters of a label that is not ASCII -/
def maxLabel : Nat := 1000

/-- the label that an encoded form stands for -/
def decoded? (cs : List Char) : Option (List Char) :=
  if maxEncoded < cs.length then none
  else (Punycode.decode? cs).filter fun l => !l.all Punycode.isBasic && usual? l == some l

/-- the label as it is shown -/
def shown? (label : List Char) : Option (List Char) :=
  match Chars.dropPrefix? encodedMark label with
  | some rest => decoded? rest
  | none => some label

/-- the next character that joining does not look through joins on one of the sides -/
def joins (sides : List Unicode.Joining) (cs : List Char) : Bool :=
  match cs.dropWhile fun c => Unicode.joining c = .transparent with
  | c :: _ => sides.contains (Unicode.joining c)
  | [] => false

/-- a joiner stands behind a mark that drops a vowel; one that keeps letters apart may also stand
between letters that would join; `before` are the characters before it, last first -/
def mayJoin (c : Char) (before behind : List Char) : Bool :=
  match before with
  | [] => false
  | d :: _ =>
    Unicode.combiningClass d = Unicode.viramaClass
      || (c.toNat = 0x200C && joins [.both, .behind] before && joins [.both, .before] behind)

def isJoiner (c : Char) : Bool := c.toNat = 0x200C || c.toNat = 0x200D

/-- whether every joiner has a place; `before` are the characters before, last first -/
def joinersFit (before : List Char) : List Char → Bool
  | [] => true
  | c :: cs => (!isJoiner c || mayJoin c before cs) && joinersFit (c :: before) cs

/-- whether a label can be shown; ASCII always can -/
def isShowable (label : List Char) : Bool :=
  label.all Punycode.isBasic
    || (label.length ≤ maxLabel && !(label.head?.map Unicode.isMark).getD false
      && joinersFit [] label)

/-! ## directions -/

/-- the directions that a label written to the right may have behind its first character -/
def besideLeft : List Unicode.Direction :=
  [.left, .digit, .sign, .separator, .unit, .neutral, .joiner, .mark]

/-- the directions that a label written to the left may have behind its first character -/
def besideRight : List Unicode.Direction :=
  [.right, .arabic, .arabicDigit, .digit, .sign, .separator, .unit, .neutral, .joiner, .mark]

/-- the directions that such a label may end in, apart from marks -/
def endsRight : List Unicode.Direction := [.right, .arabic, .arabicDigit, .digit]

/-- whether the directions in a label leave no doubt about the order of its characters: `inside`
may stand behind the first one, the last one that is no mark has to be among `ends`, and numbers
are of one kind -/
def directionsFit (inside ends : List Unicode.Direction) (ds : List Unicode.Direction) : Bool :=
  ds.all inside.contains && !(ds.contains .digit && ds.contains .arabicDigit)
    && match ds.reverse.dropWhile (· = .mark) with
      | d :: _ => ends.contains d
      | [] => true

def obeysDirections (label : List Char) : Bool :=
  match label.map Unicode.direction with
  | [] => true
  | .left :: ds => directionsFit besideLeft [.left, .digit] ds
  | .right :: ds | .arabic :: ds => directionsFit besideRight endsRight ds
  | _ :: _ => false

/-- directions matter in a domain that has a character that is written to the left -/
def hasDirections (labels : List (List Char)) : Bool :=
  labels.any fun l => l.any fun c => [.right, .arabic, .arabicDigit].contains (Unicode.direction c)

/-! ## domains -/

/-- a label in ASCII -/
def asciiLabel (label : List Char) : List Char :=
  if label.all Punycode.isBasic then label else encodedMark ++ Punycode.encode label

def ascii? (cs : List Char) : Option (List Char) := do
  let cs ← usual? cs
  if cs.any isRefusedAscii then none
  let labels := Chars.splitOn '.' cs
  let shown ← labels.mapM shown?
  if !shown.all isShowable || (hasDirections shown && !shown.all obeysDirections) then none
  return Chars.joinWith ['.'] (labels.map asciiLabel)

end Handoff.Domain
