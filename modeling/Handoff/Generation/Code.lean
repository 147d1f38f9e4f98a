import Handoff.Font
import Handoff.Html.Page
import Handoff.React.Component

/-!
# Generated code

The code of a tree for a framework, with the files beside it and the warnings.  Nothing can fail:
what is missing is replaced, and there is a warning.
-/

namespace Handoff

structure GeneratedCode where
  code : String
  framework : Framework
  css : Option String := none
  files : List React.ExportedFile := []
  componentName : String
  nodeId : String
  fontsUrl : Option String := none
  warnings : List String := []
deriving Repr, Inhabited

namespace GeneratedCode

def fileJson (f : React.ExportedFile) : Json := .obj [
  ("filename", .str f.filename), ("path", .str f.path), ("content", .str f.content),
  ("kind", .str "svg")]

/-- `time` is when the code was made -/
def toJson (time : Option String) (g : GeneratedCode) : Json := .obj (
  [("code", .str g.code), ("format", .str g.framework.name),
      ("language", .str g.framework.language)]
    ++ Json.member? "css" .str g.css
    ++ Json.listMember "assets" fileJson g.files
    ++ [("metadata", .obj ([("componentName", .str g.componentName), ("nodeId", .str g.nodeId)]
      ++ Json.member? "generatedAt" .str time))]
    ++ Json.member? "googleFontsUrl" .str g.fontsUrl
    ++ Json.listMember "warnings" .str g.warnings)

end GeneratedCode

namespace Request

/-- the code for known assets -/
def codeWith (r : Request) (assets : Assets) : GeneratedCode :=
  let common : GeneratedCode := {
    code := ""
    framework := r.framework
    componentName := r.componentName
    nodeId := r.root.id
    fontsUrl := Font.stylesheetUrl? r.root }
  match r.framework with
  | .reactTailwind | .reactTailwindV4 =>
    let c := React.renderer r assets
    { common with
      code := c.componentText
      files := c.drawings.files
      warnings := assets.warnings ++ c.drawings.warnings }
  | .htmlCss =>
    let p : Html.Page := ⟨r, assets⟩
    { common with
      code := p.code
      css := some p.css
      warnings := assets.warnings ++ p.warnings }

/-- asks for the assets, and generates the code -/
def generate (r : Request) (source : AssetSource) : GeneratedCode :=
  r.codeWith (Assets.resolve (.of r.root) source)

end Request
end Handoff
