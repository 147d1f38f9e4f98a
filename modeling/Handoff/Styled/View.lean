import Handoff.Design.View
import Handoff.Styled.Node

/-!
# Styled nodes as JSON

Members that hold nothing are left out.
-/

namespace Handoff

def FillKind.members : FillKind → List (String × Json)
  | .solid color => [("type", .str "solid"), ("color", color.toJson)]
  | .gradient css => [("type", .str "gradient"), ("css", .str css)]
  | .image ref mode =>
    [("type", .str "image"), ("image_ref", .str ref), ("scale_mode", .str mode.name)]

def FillLayer.toJson (l : FillLayer) : Json :=
  .obj (("opacity", .ofFloat l.opacity) :: l.kind.members)

def ImageUse.toJson (i : ImageUse) : Json := .obj [
  ("imageRef", .str i.ref), ("nodeId", .str i.nodeId), ("scaleMode", .str i.scaleMode.name)]

def Drawing.toJson (d : Drawing) : Json := .obj [
  ("fillGeometry", .ofList OutlinePath.toJson d.fillOutlines),
  ("strokeGeometry", .ofList OutlinePath.toJson d.strokeOutlines),
  ("fills", .ofList Paint.toJson d.fills), ("strokes", .ofList Paint.toJson d.strokes),
  ("strokeWeight", .ofFloat d.strokeWeight), ("width", .ofFloat d.width),
  ("height", .ofFloat d.height)]

def Overlap.toJson (o : Overlap) : Json := .obj [
  ("value", .ofFloat o.value), ("direction", .str o.direction.name)]

def ResponsiveStyles.toJson (r : ResponsiveStyles) : Json := .obj (
  Json.member? "md" Styles.toJson r.md ++ Json.member? "lg" Styles.toJson r.lg)

def Presence.toJson (p : Presence) : Json := .obj [
  ("mobile", .bool p.mobile), ("tablet", .bool p.tablet), ("desktop", .bool p.desktop)]

/-- the members in front of the children -/
def StyledData.leadingMembers (n : StyledData) : List (String × Json) := [
  ("id", .str n.id), ("name", .str n.name), ("uniqueName", .str n.uniqueName),
  ("type", .str n.kind.tag.name), ("originalType", .str n.kind.name),
  ("styles", n.styles.toJson)]

/-- the members behind the children -/
def StyledData.trailingMembers (n : StyledData) : List (String × Json) :=
  [("visible", .bool n.isVisible), ("cumulativeRotation", .ofFloat n.rotation)]
    ++ (if n.isIcon then [("isIcon", .bool true)] else [])
    ++ (if n.fills.isEmpty then [] else [("fills", .ofList FillLayer.toJson n.fills)])
    ++ Json.member? "image" ImageUse.toJson n.image
    ++ Json.member? "svg" Drawing.toJson n.drawing
    ++ Json.member? "maskImageRef" .str n.maskImageRef
    ++ Json.member? "negativeSpacing" Overlap.toJson n.overlap
    ++ Json.member? "responsive" ResponsiveStyles.toJson n.responsive
    ++ Json.member? "presence" Presence.toJson n.presence

mutual
def StyledNode.toJson (n : StyledNode) : Json :=
  match n with
  | ⟨d, cs⟩ =>
    .obj (d.leadingMembers ++ [("children", .arr (StyledNode.toJsons cs))] ++ d.trailingMembers)
termination_by structural n

def StyledNode.toJsons (ns : List StyledNode) : List Json :=
  match ns with
  | [] => []
  | n :: ns => n.toJson :: StyledNode.toJsons ns
termination_by structural ns
end

end Handoff
