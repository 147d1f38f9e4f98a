import Handoff.Generation.Attributes
import Handoff.Generation.Request
import Handoff.Naming.Unique
import Handoff.Text.Escape

/-!
# Drawings in components

A drawing is written into the component as an address that holds its document, or it is a file of
its own that the component imports under a name.  All drawings of a tree are prepared in front of
its elements, because imports come first.
-/

namespace Handoff.React

/-- a file beside the component -/
structure ExportedFile where
  importName : String
  filename : String
  content : String
deriving Repr, Inhabited

/-- the path of a file, as the component imports it -/
def ExportedFile.path (f : ExportedFile) : String := "./img/" ++ f.filename

/-- where the image of a drawing is -/
inductive DrawingSource where
  | address (url : String)
  | imported (name : String)
deriving Repr, Inhabited

/-- sources by the ids of nodes -/
structure Drawings where
  sources : Dict DrawingSource := ∅
  files : List ExportedFile := []
  warnings : List String := []
deriving Repr, Inhabited

namespace Drawings

def addFile (ds : Drawings) (n : StyledData) (content : String) : Drawings :=
  let name := Naming.freshVariable (ds.files.map ExportedFile.importName) n.name
  { ds with
    sources := ds.sources.set n.id (.imported name)
    files := ds.files ++ [⟨name, name ++ ".svg", content⟩] }

def add (mode : SvgMode) (assets : Assets) (ds : Drawings) (n : StyledData) : Drawings :=
  let (content, warnings) := drawingDocument assets n
  let ds := { ds with warnings := ds.warnings ++ warnings }
  match mode with
  | .inlined => { ds with sources := ds.sources.set n.id (.address (Escape.svgUrl content)) }
  | .exported => ds.addFile n content

/-- the drawings that a stack of nodes leads to: a node that is rendered and no drawing leaves the
stack to its children, the first of them on top -/
def visited (stack : List StyledNode) : List StyledData :=
  match stack with
  | [] => []
  | ⟨d, cs⟩ :: stack =>
    if !d.isRendered then visited stack
    else if StyledNode.isDrawn ⟨d, cs⟩ then d :: visited stack
    else visited (cs ++ stack)
termination_by (StyledNode.preOrderAll stack).length
decreasing_by
  all_goals
    simp only [StyledNode.preOrderAll, StyledNode.preOrder, StyledNode.preOrderAll_append,
      List.length_append, List.length_cons]
    omega

def of (mode : SvgMode) (assets : Assets) (root : StyledNode) : Drawings :=
  (visited [root]).foldl (add mode assets) {}

end Drawings
end Handoff.React
