/-!
# Kinds of design nodes

The kind of a node decides which data it carries and which element it becomes.
-/

namespace Handoff

inductive NodeKind where
  | frame
  | group
  | canvasSection
  | component
  | componentSet
  | componentInstance
  | rectangle
  | ellipse
  | polygon
  | star
  | regularPolygon
  | line
  | vector
  | booleanOperation
  | text
  | other
deriving DecidableEq, Repr, Inhabited

/-- the element a node becomes -/
inductive Tag where
  | div
  | span
  | svg
deriving DecidableEq, Repr

namespace NodeKind

def names : List (String × NodeKind) := [
  ("FRAME", .frame), ("GROUP", .group), ("SECTION", .canvasSection), ("COMPONENT", .component),
  ("COMPONENT_SET", .componentSet), ("INSTANCE", .componentInstance), ("RECTANGLE", .rectangle),
  ("ELLIPSE", .ellipse), ("POLYGON", .polygon), ("STAR", .star),
  ("REGULAR_POLYGON", .regularPolygon), ("LINE", .line), ("VECTOR", .vector),
  ("BOOLEAN_OPERATION", .booleanOperation), ("TEXT", .text)]

/-- an unknown name is the kind `other` -/
def ofName (name : String) : NodeKind := (names.lookup name).getD .other

def name : NodeKind → String
  | .frame => "FRAME"
  | .group => "GROUP"
  | .canvasSection => "SECTION"
  | .component => "COMPONENT"
  | .componentSet => "COMPONENT_SET"
  | .componentInstance => "INSTANCE"
  | .rectangle => "RECTANGLE"
  | .ellipse => "ELLIPSE"
  | .polygon => "POLYGON"
  | .star => "STAR"
  | .regularPolygon => "REGULAR_POLYGON"
  | .line => "LINE"
  | .vector => "VECTOR"
  | .booleanOperation => "BOOLEAN_OPERATION"
  | .text => "TEXT"
  | .other => "OTHER"

def isVector : NodeKind → Bool
  | .vector | .booleanOperation | .line => true
  | _ => false

def isComponent : NodeKind → Bool
  | .component | .componentSet | .componentInstance => true
  | _ => false

def tag : NodeKind → Tag
  | .text => .span
  | .vector | .booleanOperation | .line => .svg
  | _ => .div

end NodeKind

def Tag.name : Tag → String
  | .div => "div"
  | .span => "span"
  | .svg => "svg"

end Handoff
