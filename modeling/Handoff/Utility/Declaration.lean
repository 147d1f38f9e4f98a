import Handoff.ClassList.Basic
import Handoff.Style
import Handoff.Utility.Layout
import Handoff.Utility.Surface

/-!
# Classes for a declaration

`utilities` says, for each CSS property, how its value is written as classes; `ofDeclaration`
looks a declaration up there.  A property that is not in the table has no classes.

* `classesOf`, `ofStyles`   the list of these classes, and those of all declarations in their order.
-/

namespace Handoff.Utility

/-- the properties that have utilities; names are lower case and without dashes -/
def utilities : List (String × (String → String)) := [
  ("display", display), ("flexdirection", flexDirection), ("flexwrap", flexWrap),
  ("flexgrow", flexGrow), ("flexshrink", flexShrink), ("flex", flex), ("alignself", alignSelf),
  ("justifycontent", justifyContent), ("alignitems", alignItems), ("aligncontent", alignContent),
  ("placeitems", placeItems), ("gridtemplatecolumns", gridTemplate "grid-cols"),
  ("gridtemplaterows", gridTemplate "grid-rows"), ("gridarea", gridArea),
  ("gridcolumn", gridSpan "col"), ("gridrow", gridSpan "row"), ("position", position),
  ("top", inset "top"), ("right", inset "right"), ("bottom", inset "bottom"),
  ("left", inset "left"), ("zindex", zIndex), ("overflow", overflow "overflow"),
  ("overflowx", overflow "overflow-x"), ("overflowy", overflow "overflow-y"),
  ("width", size "w"), ("height", size "h"), ("minwidth", size "min-w"),
  ("maxwidth", size "max-w"), ("minheight", size "min-h"), ("maxheight", size "max-h"),
  ("padding", boxSides "p"), ("paddingtop", scaleClass "pt"), ("paddingright", scaleClass "pr"),
  ("paddingbottom", scaleClass "pb"), ("paddingleft", scaleClass "pl"), ("margin", boxSides "m"),
  ("margintop", scaleClass "mt"), ("marginright", scaleClass "mr"),
  ("marginbottom", scaleClass "mb"), ("marginleft", scaleClass "ml"), ("gap", gap "gap"),
  ("rowgap", gap "gap-y"), ("columngap", gap "gap-x"), ("translate", translate),
  ("translatex", translateAxis "x"), ("translatey", translateAxis "y"),
  ("aspectratio", aspectRatio),
  ("background", background), ("backgroundcolor", background),
  ("backgroundimage", arbitrary "bg"), ("backgroundsize", backgroundSize),
  ("color", colorClass "text"), ("border", border), ("borderwidth", borderWidth "border"),
  ("bordertopwidth", borderWidth "border-t"), ("borderrightwidth", borderWidth "border-r"),
  ("borderbottomwidth", borderWidth "border-b"), ("borderleftwidth", borderWidth "border-l"),
  ("bordercolor", colorClass "border"), ("borderstyle", borderStyle),
  ("borderradius", radius "rounded"), ("bordertopleftradius", radius "rounded-tl"),
  ("bordertoprightradius", radius "rounded-tr"),
  ("borderbottomrightradius", radius "rounded-br"),
  ("borderbottomleftradius", radius "rounded-bl"), ("transform", transform),
  ("opacity", opacity), ("fontfamily", fontFamily), ("fontweight", fontWeight),
  ("fontstyle", fontStyle), ("fontvariant", bracketProperty "font-variant"),
  ("fontsize", fontSize), ("lineheight", lineHeight), ("letterspacing", arbitrary "tracking"),
  ("texttransform", textTransform), ("textdecoration", textDecoration),
  ("textalign", textAlign), ("verticalalign", verticalAlign), ("textindent", arbitrary "indent"),
  ("filter", blur "blur" "filter"), ("backdropfilter", blur "backdrop-blur" "backdrop-filter"),
  ("mixblendmode", mixBlend), ("boxshadow", boxShadow), ("outline", outline),
  ("outlineoffset", arbitrary "outline-offset"), ("clippath", bracketProperty "clip-path")]

/-- a property name without its dashes and in lower case, so that both spellings agree -/
def propertyKey (property : String) : String :=
  Text.onChars (fun cs => (cs.filter (· ≠ '-')).map Char.toLower) property

/-- the classes of one declaration, separated by blanks -/
def ofDeclaration (property value : String) : String :=
  let value := Text.trim value
  if value = "" then ""
  else match utilities.lookup (propertyKey property) with
    | some write => write value
    | none => ""

/-! ## lists of classes -/

/-- the classes of one declaration -/
def classesOf (property value : String) : List String :=
  ClassList.split (ofDeclaration property value)

def ofStyles (s : Styles) : List String :=
  s.entries.flatMap fun d => classesOf d.1 d.2.show

end Handoff.Utility
