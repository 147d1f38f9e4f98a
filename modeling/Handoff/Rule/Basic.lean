import Handoff.Design.Node
import Handoff.Framework
import Handoff.Json.Decode
import Handoff.Style

/-!
# Rules

A rule gives properties to the nodes whose attributes have the values that it selects.  It may be
meant for one framework only.

* `Rule.appliesTo`   whether a rule is meant for a framework;
* `Rule.isMatch`     whether it selects a node.
-/

namespace Handoff

structure Rule where
  id : String
  name : Option String := none
  enabled : Bool := true
  priority : Int := 0
  /-- none stands for all of them -/
  framework : Option Framework := none
  selector : Dict Json := ∅
  properties : Styles := ∅
deriving Inhabited

namespace Rule

/-- rules for the older classes hold for the newer ones too, which are made from them -/
def appliesTo (r : Rule) (f : Framework) : Bool :=
  match r.framework with
  | none => true
  | some target => target = f || (target = .reactTailwind && f = .reactTailwindV4)

/-- numbers are compared by value -/
def valuesAgree : Json → Json → Bool
  | .num a, .num b => a.toFloat == b.toFloat
  | expected, actual => expected.same actual

/-- an attribute as it was written, or else the type or the name -/
def attributeOf? (n : NodeData) (key : String) : Option Json :=
  (n.attributes.get? key).orElse fun _ =>
    if key = "type" then some (.str n.kindName)
    else if key = "name" then some (.str n.name)
    else none

/-- a list of values stands for any of them, unless the attribute is itself a list -/
def valueAccepted : (expected actual : Json) → Bool
  | .arr options, .arr items => valuesAgree (.arr options) (.arr items)
  | .arr options, actual => options.any fun option => valuesAgree option actual
  | expected, actual => valuesAgree expected actual

def accepts (n : NodeData) (key : String) (expected : Json) : Bool :=
  match attributeOf? n key with
  | some actual => valueAccepted expected actual
  | none => false

def isMatch (r : Rule) (n : NodeData) : Bool :=
  r.enabled && r.selector.entries.all fun e => accepts n e.1 e.2

end Rule
end Handoff
