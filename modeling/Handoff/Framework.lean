import Handoff.Text.Basic

/-!
# Targets of generation

The frameworks that code is written for, and what becomes of drawings in it.  Their names are read
with any case and with blanks around them.
-/

namespace Handoff

inductive Framework where
  | reactTailwind
  | reactTailwindV4
  | htmlCss
deriving DecidableEq, Repr, Inhabited

namespace Framework

def all : List Framework := [.reactTailwind, .reactTailwindV4, .htmlCss]

def name : Framework → String
  | .reactTailwind => "react-tailwind"
  | .reactTailwindV4 => "react-tailwind-v4"
  | .htmlCss => "html-css"

def names : List (String × Framework) := all.map fun f => (f.name, f)

/-- the language of the code, which is also the extension of its file -/
def language : Framework → String
  | .reactTailwind | .reactTailwindV4 => "tsx"
  | .htmlCss => "html"

def parse? (s : String) : Option Framework := names.lookup (Text.asciiLower (Text.trim s))

/-- the complaint about a name that is none of these -/
def complaint (s : String) : String :=
  "Unknown framework '" ++ s
    ++ "'. Expected one of: react-tailwind, react-tailwind-v4, html-css"

end Framework

/-- drawings stand in the markup, or in files of their own -/
inductive SvgMode where
  | inlined
  | exported
deriving DecidableEq, Repr, Inhabited

namespace SvgMode

def name : SvgMode → String
  | .inlined => "inline"
  | .exported => "export"

def names : List (String × SvgMode) := [("inline", .inlined), ("export", .exported)]

def parse? (s : String) : Option SvgMode := names.lookup (Text.asciiLower (Text.trim s))

/-- the complaint about a name that is none of these -/
def complaint (s : String) : String :=
  "Unknown SVG mode '" ++ Text.asciiLower (Text.trim s) ++ "'. Expected inline or export"

end SvgMode
end Handoff
