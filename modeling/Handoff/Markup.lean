import Handoff.Text.Escape

/-!
# Markup

Elements are written with one line for each tag, indented by their depth.  Strings in attributes and
contents are escaped when they are written, apart from class lists, addresses of drawings and
styles.
-/

namespace Handoff

inductive AttributeValue where
  /-- between double quotes, with its quotes and ampersands escaped -/
  | text (s : String)
  /-- between double quotes, as it is -/
  | verbatim (s : String)
  /-- between braces -/
  | expression (code : String)
  /-- an object of styles -/
  | styles (entries : List (String × String))
deriving Repr, Inhabited

structure Attribute where
  name : String
  value : AttributeValue
deriving Repr, Inhabited

inductive Content where
  | empty
  | text (s : String)
  | expression (code : String)
deriving Repr, Inhabited

inductive Element where
  /-- an element that its only tag closes -/
  | closed (tag : String) (attributes : List Attribute)
  /-- an element on one line -/
  | leaf (tag : String) (attributes : List Attribute) (content : Content)
  /-- an element with others inside of it -/
  | block (tag : String) (attributes : List Attribute) (children : List Element)
deriving Repr, Inhabited

namespace Attribute

def braces (s : String) : String := "\x7b" ++ s ++ "\x7d"

def quotes (s : String) : String := "\"" ++ s ++ "\""

def styleObject (entries : List (String × String)) : String :=
  braces (braces (" " ++ String.intercalate ", "
    (entries.map fun e => e.1 ++ ": " ++ quotes e.2) ++ " "))

def render (a : Attribute) : String :=
  a.name ++ "=" ++ match a.value with
    | .text s => quotes (Escape.attributeValue s)
    | .verbatim s => quotes s
    | .expression code => braces code
    | .styles entries => styleObject entries

end Attribute

def Content.render : Content → String
  | .empty => ""
  | .text s => Escape.content s
  | .expression code => Attribute.braces code

namespace Element

def tag : Element → String
  | closed tag _ | leaf tag _ _ | block tag _ _ => tag

def attributes : Element → List Attribute
  | closed _ as | leaf _ as _ | block _ as _ => as

/-- the head of a tag, up to where it ends -/
def opening (tag : String) (attributes : List Attribute) : String :=
  "<" ++ String.intercalate " " (tag :: attributes.map Attribute.render)

def line (depth : Nat) (text : String) : String :=
  String.ofList (List.replicate (2 * depth) ' ') ++ text ++ "\n"

mutual
def render (depth : Nat) (e : Element) : String :=
  match e with
  | closed tag as => line depth (opening tag as ++ " />")
  | leaf tag as content =>
    line depth (opening tag as ++ ">" ++ content.render ++ "</" ++ tag ++ ">")
  | block tag as children =>
    line depth (opening tag as ++ ">") ++ renderAll (depth + 1) children
      ++ line depth ("</" ++ tag ++ ">")
termination_by structural e

def renderAll (depth : Nat) (es : List Element) : String :=
  match es with
  | [] => ""
  | e :: es => render depth e ++ renderAll depth es
termination_by structural es
end

end Element
end Handoff
