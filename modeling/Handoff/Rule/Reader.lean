import Handoff.Decimal.Binary
import Handoff.Fault
import Handoff.Json.Parser
import Handoff.Json.Printer
import Handoff.Rule.Basic
import Handoff.Yaml.Value

/-!
# Reading rules

A document of rules is a list of them, or has such a list as its member `rules`.  Entries that
cannot be read are left out.
-/

namespace Handoff

def Decode.int32 : Decoder Int
  | .num (.int n) => if -Decimal.twoTo 31 ≤ n && n < Decimal.twoTo 31 then some n else none
  | _ => none

namespace Rule

def ofJson? : Decoder Rule := fun v => do
  let r ← Record.ofJson?
    ["id", "name", "enabled", "priority", "framework", "selector", "properties"] v
  return {
    id := ← r.required "id" Decode.string
    name := ← r.orElse "name" none (Decode.nullable Decode.string)
    enabled := ← r.orElse "enabled" true Decode.bool
    priority := ← r.orElse "priority" 0 Decode.int32
    framework := ← r.orElse "framework" none (Decode.nullable (Decode.oneOf Framework.names))
    selector := ← r.orElse "selector" ∅ (Decode.dict some)
    properties := ← r.orElse "properties" ∅ Styles.ofJson? }

def toJson (r : Rule) : Json := .obj (
  [("id", .str r.id)]
    ++ Json.member? "name" .str r.name
    ++ [("enabled", .bool r.enabled), ("priority", .num (.int r.priority))]
    ++ Json.member? "framework" (fun (f : Framework) => .str f.name) r.framework
    ++ [("selector", .obj r.selector.entries), ("properties", r.properties.toJson)])

/-- the list of entries of a document -/
def entries? : Json → Option (List Json)
  | .arr entries => some entries
  | .obj ms => (ms.lookup "rules").bind Json.asArr?
  | _ => none

def ofDocument (v : Json) : Except Fault (List Rule) :=
  match entries? v with
  | some entries => .ok (entries.filterMap ofJson?)
  | none => .error (.rules .notAList)

def ofJsonText (s : String) : Except Fault (List Rule) :=
  match Json.parse? s with
  | some v => ofDocument v
  | none => .error (.document .syntaxError)

def ofYamlText (s : String) : Except Fault (List Rule) :=
  match Yaml.parse? s with
  | some v => ofDocument v
  | none => .error .yaml

end Rule
end Handoff
