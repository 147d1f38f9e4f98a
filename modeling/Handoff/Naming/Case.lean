import Handoff.Text.Basic

/-!
# Spellings of names

Layer names are free text.  Each function here turns one into a form that some place of the output
requires: identifiers, class names, file names, custom properties, attribute names.  All of them
look at ASCII letters and digits only and write nothing else but dashes and underscores.
-/

namespace Handoff.Naming

/-- the runs of ASCII letters and digits -/
def alnumRuns (cs : List Char) : List (List Char) :=
  Chars.fields (fun c => !Chars.isAsciiAlnum c) cs

def lower (cs : List Char) : List Char := cs.map Char.toLower

/-- first letter in upper case, the others in lower case -/
def capitalize : List Char → List Char
  | [] => []
  | c :: cs => c.toUpper :: lower cs

def startsWithDigit : List Char → Bool
  | [] => false
  | c :: _ => Chars.isAsciiDigit c

/-- a name is never empty and never begins with a digit; `lead` is put in front where it would -/
def leadBy (lead : List Char) (cs : List Char) : List Char :=
  if cs.isEmpty || startsWithDigit cs then lead ++ cs else cs

def component : List Char := ['C', 'o', 'm', 'p', 'o', 'n', 'e', 'n', 't']

/-- a component name: button-primary becomes ButtonPrimary -/
def pascalChars (cs : List Char) : List Char :=
  leadBy component ((alnumRuns cs).flatMap capitalize)

/-- lower case, with every word but the first capitalized -/
def camelWords : List (List Char) → List Char
  | [] => []
  | w :: ws => lower w ++ ws.flatMap capitalize

/-- Hero Image becomes heroImage -/
def camelChars (cs : List Char) : List Char :=
  let joined := camelWords (alnumRuns cs)
  if joined.isEmpty then ['p', 'r', 'o', 'p'] else joined

/-- `dash` says that a dash was just written, `lowered` that the last character was a lower-case
letter or a digit -/
def kebabFrom (dash lowered : Bool) : List Char → List Char
  | [] => []
  | c :: cs =>
    if Chars.isBlank c || c == '_' || c == '-' then
      (if dash then [] else ['-']) ++ kebabFrom true false cs
    else if Chars.isAsciiAlnum c then
      (if Chars.isAsciiUpper c && lowered then ['-'] else []) ++
        c.toLower :: kebabFrom false (Chars.isAsciiLower c || Chars.isAsciiDigit c) cs
    else kebabFrom dash false cs

/-- words in lower case between dashes: cardTitle_01 becomes card-title-01 -/
def kebabChars (cs : List Char) : List Char :=
  let trimmed := Chars.trimBy (· == '-') (kebabFrom false false cs)
  if trimmed.isEmpty then ['c', 'o', 'm', 'p', 'o', 'n', 'e', 'n', 't'] else trimmed

/-- the ASCII letters and digits of a name -/
def identifierChars (cs : List Char) : List Char :=
  leadBy component (cs.filter Chars.isAsciiAlnum)

/-- `dash` says that a dash was just written -/
def cssNameFrom (dash : Bool) : List Char → List Char
  | [] => []
  | c :: cs =>
    if c == '/' || c == ' ' || c == '\t' || c == '-' then
      if dash then cssNameFrom true cs else '-' :: cssNameFrom true cs
    else if Chars.isAsciiAlnum c || c == '_' then c.toLower :: cssNameFrom false cs
    else cssNameFrom dash cs

/-- a custom property: Colors/Brand Primary becomes colors-brand-primary; it may come out empty -/
def cssNameChars (cs : List Char) : List Char := Chars.trimBy (· == '-') (cssNameFrom false cs)

/-! ## layer names -/

def dashed (parts : List (List Char)) : List Char := Chars.joinWith ['-'] parts

/-- lower-case words between dashes, with an ampersand read as a word -/
def layerChars (cs : List Char) : List Char :=
  let bare := Chars.trimStartBy (fun c => c == '_' || c == '#') cs
  let spelled := (Chars.replaceChar '&' ['a', 'n', 'd'] bare).map fun c =>
    if c == '/' || c == '\\' then '-' else c
  let kept := spelled.filter fun c => Chars.isAsciiAlnum c || Chars.isBlank c || c == '-'
  let dashes := kept.map fun c => if Chars.isBlank c then '-' else c
  lower (dashed (Chars.fields (· == '-') dashes))

def layerWords : Nat := 4

/-- the first words of a layer name: texts are often named after all they say -/
def shortLayerChars (cs : List Char) : List Char :=
  dashed ((Chars.splitOn '-' (layerChars cs)).take layerWords)

/-- the name of an attribute for a component property; it may come out empty -/
def attributeChars (cs : List Char) : List Char :=
  let spelled := cs.flatMap fun c =>
    if Chars.isAsciiUpper c then ['-', c.toLower]
    else if Chars.isAsciiAlpha c then [c]
    else if Chars.isBlank c then ['-'] else []
  dashed (Chars.fields (· == '-') spelled)

/-! ## on strings -/

def pascal (s : String) : String := Text.onChars pascalChars s
def camel (s : String) : String := Text.onChars camelChars s
def kebab (s : String) : String := Text.onChars kebabChars s
def identifier (s : String) : String := Text.onChars identifierChars s
def cssName (s : String) : String := Text.onChars cssNameChars s
def layer (s : String) : String := Text.onChars layerChars s
def shortLayer (s : String) : String := Text.onChars shortLayerChars s
def attributeName (s : String) : String := Text.onChars attributeChars s

end Handoff.Naming
