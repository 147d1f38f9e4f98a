/-!
# Tokens of YAML

What a text is made of.  Collections without brackets begin and end with tokens of their own, which
come from the indentation.
-/

namespace Handoff.Yaml

/-- a text that stands for a value -/
structure ScalarText where
  text : String
  /-- it has neither quotes nor an indicator, so that it may stand for more than a text -/
  isPlain : Bool
deriving DecidableEq, Repr, Inhabited

/-- the name of a type: a handle, which stands for the beginning of the name, and the rest in
bytes -/
structure TagName where
  handle : String
  suffix : List Nat
deriving DecidableEq, Repr, Inhabited

inductive Token where
  /-- a version of the language -/
  | version (major minor : Nat)
  /-- a handle and what it stands for -/
  | handle (name : String) (meaning : List Nat)
  | documentStart
  | documentEnd
  | listStart
  | mapStart
  /-- the end of a list or map without brackets -/
  | collectionEnd
  | bracketOpen
  | bracketClose
  | braceOpen
  | braceClose
  | comma
  | item
  | key
  | value
  | anchor (name : String)
  | alias (name : String)
  | tag (name : TagName)
  | scalar (s : ScalarText)
deriving DecidableEq, Repr, Inhabited

end Handoff.Yaml
