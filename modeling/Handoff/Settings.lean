import Handoff.Duration
import Handoff.Generation.Request
import Handoff.Styling.Session
import Handoff.Toml.Document
import Handoff.Url.Basic

/-!
# Settings

Defaults for what the command line leaves open.  They are read from a TOML document, where each of
them may be missing; `Settings.check` looks at their values.

* `Settings.parse?`    the settings of a document;
* `Settings.check`     the first value that is out of range;
* `Settings.choose`    the settings that hold where the command line has choices of its own.
-/

namespace Handoff

structure ServiceSettings where
  baseUrl : String := "https://api.figma.com/v1"
  timeout : Duration := .ofSeconds 30
deriving Repr, Inhabited

structure Settings where
  framework : Framework := .reactTailwind
  hidden : HiddenMode := .drop
  spacingTolerance : Float := Utility.defaultTolerance
  svgMode : SvgMode := .inlined
  withProps : Bool := false
  icons : IconLimits := {}
  service : ServiceSettings := {}
deriving Repr, Inhabited

/-! ## reading -/

namespace Toml

/-- the fields of a record: of a table by their names, of a list in their order; a date or time
counts as a record without fields -/
def fields? (names : List String) : Toml → Option (List (String × Toml))
  | .table _ ms => some ms
  | .moment _ => some []
  | .arr items => some (names.zip items)
  | .tables items => some (names.zip (items.map (.table .headed)))
  | _ => none

/-- a field that may be missing -/
def fieldOr {α : Type} (fields : List (String × Toml)) (name : String) (default : α)
    (read : Toml → Option α) : Option α :=
  match fields.lookup name with
  | some v => read v
  | none => some default

def asStr? : Toml → Option String
  | .str s => some s
  | _ => none

def asBool? : Toml → Option Bool
  | .bool b => some b
  | _ => none

def asFloat? : Toml → Option Float
  | .num (.int n) => some (JsonNumber.toFloat (.int n))
  | .num (.real x) => some x
  | _ => none

/-- a name in a text, or as the only key of a table, with nothing under it -/
def oneOf? {α : Type} (names : List (String × α)) : Toml → Option α
  | .str s => names.lookup s
  | .table _ [(k, .table _ [])] | .table _ [(k, .arr [])] => names.lookup k
  | _ => none

end Toml

def IconLimits.ofToml? (v : Toml) : Option IconLimits := do
  let fields ← v.fields? ["max_export_size", "max_component_size"]
  let default : IconLimits := {}
  return {
    exported := ← Toml.fieldOr fields "max_export_size" default.exported Toml.asFloat?
    component := ← Toml.fieldOr fields "max_component_size" default.component Toml.asFloat? }

def ServiceSettings.ofToml? (v : Toml) : Option ServiceSettings := do
  let fields ← v.fields? ["base_url", "timeout"]
  let default : ServiceSettings := {}
  return {
    baseUrl := ← Toml.fieldOr fields "base_url" default.baseUrl Toml.asStr?
    timeout := ← Toml.fieldOr fields "timeout" default.timeout fun v =>
      v.asStr?.bind Duration.parse? }

namespace Settings

def ofMembers? (ms : Toml.Members) : Option Settings := do
  let default : Settings := {}
  return {
    framework := ← Toml.fieldOr ms "framework" default.framework (Toml.oneOf? Framework.names)
    hidden := ← Toml.fieldOr ms "hidden_nodes" default.hidden (Toml.oneOf? HiddenMode.names)
    spacingTolerance :=
      ← Toml.fieldOr ms "spacing_tolerance" default.spacingTolerance Toml.asFloat?
    svgMode := ← Toml.fieldOr ms "svg_mode" default.svgMode (Toml.oneOf? SvgMode.names)
    withProps := ← Toml.fieldOr ms "with_props" default.withProps Toml.asBool?
    icons := ← Toml.fieldOr ms "icons" default.icons IconLimits.ofToml?
    service := ← Toml.fieldOr ms "figma" default.service ServiceSettings.ofToml? }

def parse? (s : String) : Option Settings := (Toml.parse? s).bind ofMembers?

def toJson (s : Settings) : Json := .obj [
  ("framework", .str s.framework.name), ("hidden_nodes", .str s.hidden.name),
  ("spacing_tolerance", .ofFloat s.spacingTolerance), ("svg_mode", .str s.svgMode.name),
  ("with_props", .bool s.withProps),
  ("icons", .obj [("max_export_size", .ofFloat s.icons.exported),
    ("max_component_size", .ofFloat s.icons.component)]),
  ("figma", .obj [("base_url", .str s.service.baseUrl), ("timeout", .str s.service.timeout.text)])]

/-! ## checking -/

def check (s : Settings) : Except SettingFault Unit :=
  if !(0.0 ≤ s.spacingTolerance && s.spacingTolerance ≤ 0.5) then
    .error (.spacingTolerance s.spacingTolerance)
  else if s.icons.exported ≤ 0.0 || s.icons.component ≤ 0.0 then .error .iconSizes
  else if s.service.timeout.isZero then .error .timeout
  else match Url.parse s.service.baseUrl with
    | .ok _ => .ok ()
    | .error cause => .error (.baseUrl s.service.baseUrl cause)

end Settings

/-! ## choosing -/

/-- what the command line says about a generation -/
structure Choices where
  framework : Option Framework := none
  hidden : Option HiddenMode := none
  svgMode : Option SvgMode := none
  withProps : Bool := false
  componentName : Option String := none
deriving Repr, Inhabited

/-- the settings of one generation -/
structure EffectiveSettings where
  framework : Framework
  hidden : HiddenMode
  options : GenerateOptions
deriving Repr, Inhabited

/-- a choice wins over a setting, and a name of blanks is no name -/
def Settings.choose (s : Settings) (c : Choices) : EffectiveSettings where
  framework := c.framework.getD s.framework
  hidden := c.hidden.getD s.hidden
  options := {
    withProps := s.withProps || c.withProps
    svgMode := c.svgMode.getD s.svgMode
    spacingTolerance := s.spacingTolerance
    componentName := (c.componentName.map Text.trim).filter (· ≠ "") }

/-- one line on the settings; `source` is where they come from -/
def EffectiveSettings.summary (e : EffectiveSettings) (source : Option String) : String :=
  "Effective config [" ++ source.getD "defaults" ++ "]: framework=" ++ e.framework.name
    ++ ", hidden=" ++ e.hidden.name ++ ", svg_mode=" ++ e.options.svgMode.name
    ++ ", with_props=" ++ (if e.options.withProps then "true" else "false")
    ++ ", spacing_tolerance=" ++ Decimal.fixed 2 e.options.spacingTolerance

end Handoff
