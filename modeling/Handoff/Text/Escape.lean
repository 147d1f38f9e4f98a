import Handoff.Text.Bytes

/-!
# Text between delimiters

* `markup`, `content`     text inside an element; `content` also turns line ends into breaks;
* `attributeValue`        text inside a double-quoted attribute;
* `script`                text inside a double-quoted string of a script;
* `base64`, `svgUrl`      a document as part of an address.
-/

namespace Handoff.Escape

/-- the reserved characters of markup, and the braces that delimit expressions in it -/
def markupChars (cs : List Char) : List Char :=
  Chars.replaceChar '}' "&#125;".toList
    (Chars.replaceChar '{' "&#123;".toList
      (Chars.replaceChar '>' "&gt;".toList
        (Chars.replaceChar '<' "&lt;".toList
          (Chars.replaceChar '&' "&amp;".toList cs))))

/-- first the empty lines, then the line ends that are left -/
def breakLines (cs : List Char) : List Char :=
  Chars.replaceChar '\n' "<br/>".toList
    (Chars.replaceAll ['\n', '\n'] "<br/><br/>".toList cs)

def contentChars (cs : List Char) : List Char := breakLines (markupChars cs)

def attributeChars (cs : List Char) : List Char :=
  Chars.replaceChar '"' "&quot;".toList (Chars.replaceChar '&' "&amp;".toList cs)

/-- a text in a double-quoted string of a script: its line ends are written as escapes -/
def scriptChars (cs : List Char) : List Char :=
  let lines := cs.map fun c => if c.toNat = 0x2028 || c.toNat = 0x2029 then '\n' else c
  let escaped := Chars.replaceChar '"' ['\\', '"'] (Chars.replaceChar '\\' ['\\', '\\'] lines)
  Chars.replaceChar '\n' ['\\', 'n'] (Chars.replaceChar '\r' ['\\', 'n']
    (Chars.replaceAll ['\r', '\n'] ['\\', 'n'] escaped))

def markup (s : String) : String := Text.onChars markupChars s

def content (s : String) : String := Text.onChars contentChars s

def script (s : String) : String := Text.onChars scriptChars s

def attributeValue (s : String) : String := Text.onChars attributeChars s

/-! ## base 64 -/

def base64Digit (n : Nat) : Char :=
  let n := n % 64
  if n < 26 then Char.ofNat (65 + n)
  else if n < 52 then Char.ofNat (71 + n)
  else if n < 62 then Char.ofNat (n - 4)
  else if n = 62 then '+' else '/'

/-- three bytes become four digits; the last group is filled up with equals signs -/
def base64 : List Nat → List Char
  | [] => []
  | [a] => [base64Digit (a / 4), base64Digit (a * 16), '=', '=']
  | [a, b] => [base64Digit (a / 4), base64Digit (a * 16 + b / 16), base64Digit (b * 4), '=']
  | a :: b :: c :: rest =>
    base64Digit (a / 4) :: base64Digit (a * 16 + b / 16) :: base64Digit (b * 4 + c / 64)
      :: base64Digit c :: base64 rest

/-- an address that holds a vector image -/
def svgUrl (svg : String) : String :=
  "data:image/svg+xml;base64," ++ String.ofList (base64 (Bytes.utf8 svg))

end Handoff.Escape
