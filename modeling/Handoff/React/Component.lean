import Handoff.React.Element

/-!
# Components

A component is a function that returns the markup of a tree.  In front of it stand the imports of
its drawings and the interface of its props.
-/

namespace Handoff.React

/-- the headings of the props of both kinds -/
def propHeadings : List (PropKind × String) :=
  [(.text, "// Text content"), (.image, "// Images")]

/-- lines for the props of both kinds, with an empty line between the kinds -/
def propLines (ps : Props) (line : Binding → String) : List String :=
  let sections := propHeadings.filterMap fun h =>
    match ps.ofKind h.1 with
    | [] => none
    | bs => some (("  " ++ h.2) :: bs.map line)
  List.flatten (sections.intersperse [""])

def interfaceText (name : String) (ps : Props) : String :=
  "interface " ++ name ++ "Props \x7b\n"
    ++ String.intercalate "\n" (propLines ps fun b => "  " ++ b.name ++ "?: string;")
    ++ "\n\x7d\n\n"

def parameterText (name : String) (ps : Props) : String :=
  "\x7b\n"
    ++ String.intercalate "\n" (propLines ps fun b =>
      "  " ++ b.name ++ " = \"" ++ Escape.script b.default ++ "\",")
    ++ "\n\x7d: " ++ name ++ "Props"

def importText (files : List ExportedFile) : String :=
  if files.isEmpty then ""
  else
    String.intercalate "\n" (files.map fun f =>
      "import " ++ f.importName ++ " from \"" ++ f.path ++ "\";") ++ "\n\n"

/-- the definitions of the variables as an element of their own -/
def styleText : Option String → String
  | some definitions =>
    "      <style dangerouslySetInnerHTML=\x7b\x7b __html: `" ++ definitions ++ "` \x7d\x7d />\n"
  | none => ""

/-- the markup lies three levels deep in the function -/
def markupText (e : Option Element) : String := (e.map (Element.render 3)).getD ""

def renderer (request : Request) (assets : Assets) : Renderer where
  request
  assets
  drawings := .of request.options.svgMode assets request.root
  props := if request.options.withProps then .of assets request.root else {}

/-- the element of the whole tree -/
def Renderer.root? (c : Renderer) : Option Element := c.element? none c.request.root

def Renderer.componentText (c : Renderer) : String :=
  let name := c.request.componentName
  let (interface, parameters) :=
    if c.props.isEmpty then ("", "") else (interfaceText name c.props, parameterText name c.props)
  importText c.drawings.files ++ interface ++ "export function " ++ name ++ "(" ++ parameters
    ++ ") \x7b\n  return (\n    <>\n" ++ styleText c.request.rootVariables ++ markupText c.root?
    ++ "    </>\n  );\n\x7d"

end Handoff.React
