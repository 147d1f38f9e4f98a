import Handoff.Json.Basic
import Handoff.Rule.Basic
import Handoff.Styled.Node

/-!
# Evaluation of rules

Of the rules that match a node, the one with the highest priority gives a property its value; among
equals it is the last one.  Where several rules give the same property there is a conflict.

* `evaluate`                  the properties of a node, and where they come from;
* `RuleEvaluation.className`  the property that holds classes and no style.
-/

namespace Handoff

inductive Severity where
  | minor
  | major
deriving DecidableEq, Repr, Inhabited

namespace Severity

def name : Severity → String
  | .minor => "minor"
  | .major => "major"

def names : List (String × Severity) := [("minor", .minor), ("major", .major)]

def layoutProperties : List String :=
  ["display", "position", "width", "height", "flex-direction", "flex-wrap"]

/-- conflicts over layout are major -/
def of (property : String) : Severity :=
  if layoutProperties.contains property || Text.startsWith "grid-" property then .major else .minor

end Severity

structure RuleConflict where
  property : String
  winner : String
  overridden : List String
  severity : Severity
deriving Repr, Inhabited

/-- the value that a rule gives to a property -/
structure Emission where
  value : StyleValue
  priority : Int
  rule : String
deriving Repr, Inhabited

structure RuleEvaluation where
  emissions : Dict Emission := ∅
  matchedRules : List String := []
  conflicts : List RuleConflict := []
deriving Repr, Inhabited

namespace RuleEvaluation

def properties (e : RuleEvaluation) : Styles := e.emissions.mapValues Emission.value

/-- the rules that the properties come from -/
def provenance (e : RuleEvaluation) : Dict String := e.emissions.mapValues Emission.rule

def isEmpty (e : RuleEvaluation) : Bool := e.matchedRules.isEmpty

def classKey : String := "className"

def className (e : RuleEvaluation) : Option String :=
  (e.properties.text? classKey).filter fun s => Text.trim s ≠ ""

/-- the properties that are styles -/
def declarations (e : RuleEvaluation) : List Declaration :=
  e.properties.entries.filter fun d => d.1 ≠ classKey

end RuleEvaluation

/-! ## evaluation -/

/-- an emission gives way to one of a higher priority only -/
def offer (emissions : Dict Emission) (property : String) (e : Emission) : Dict Emission :=
  match emissions.get? property with
  | some winner => if e.priority < winner.priority then emissions else emissions.set property e
  | none => emissions.set property e

def offerRule (emissions : Dict Emission) (r : Rule) : Dict Emission :=
  r.properties.entries.foldl (fun acc d => offer acc d.1 ⟨d.2, r.priority, r.id⟩) emissions

/-- the properties in the order in which rules first gave them, each with these rules -/
def contributors (rules : List Rule) : Dict (List String) :=
  rules.foldl (fun acc r => r.properties.entries.foldl
    (fun acc d => acc.set d.1 ((acc.get? d.1).getD [] ++ [r.id])) acc) ∅

def conflict? (emissions : Dict Emission) (property : String) (rules : List String) :
    Option RuleConflict :=
  match emissions.get? property with
  | some e =>
    if 1 < rules.length then
      some ⟨property, e.rule, rules.filter (· ≠ e.rule), .of property⟩
    else none
  | none => none

/-- the rules that apply to a framework and match a node -/
def matching (rules : List Rule) (f : Framework) (n : NodeData) : List Rule :=
  rules.filter fun r => r.appliesTo f && r.isMatch n

def evaluate (rules : List Rule) (f : Framework) (n : NodeData) : RuleEvaluation :=
  let matched := matching rules f n
  let emissions := matched.foldl offerRule ∅
  { emissions
    matchedRules := matched.map Rule.id
    conflicts := (contributors matched).entries.filterMap fun e => conflict? emissions e.1 e.2 }

/-- the evaluations of all nodes of a tree by their ids; of several with one id it is the last -/
def evaluateTree (rules : List Rule) (f : Framework) (root : StyledNode) : Dict RuleEvaluation :=
  root.preOrder.foldl (fun acc n => acc.set n.id (evaluate rules f n.source)) ∅

/-! ## as JSON -/

def RuleConflict.toJson (c : RuleConflict) : Json := .obj [
  ("property", .str c.property), ("winner", .str c.winner),
  ("overridden", .ofStrings c.overridden), ("severity", .str c.severity.name)]

def RuleEvaluation.toJson (e : RuleEvaluation) : Json := .obj [
  ("properties", e.properties.toJson),
  ("provenance", .obj (e.provenance.entries.map fun p => (p.1, .str p.2))),
  ("matchedRules", .ofStrings e.matchedRules),
  ("conflicts", .ofList RuleConflict.toJson e.conflicts)]

end Handoff
