import Handoff.Naming.Case
import Handoff.Rule.Evaluation
import Handoff.Utility.Scale
import Handoff.Variables

/-!
# What is generated

A request holds all that code is made from: the tree, the framework, the rules and their evaluations
as far as they are known, the options and the variables.

* `Request.styles`        the styles of a node with the properties of its rules;
* `Request.ruleClasses`   the classes that rules give to it.
-/

namespace Handoff

structure GenerateOptions where
  withProps : Bool := false
  svgMode : SvgMode := .inlined
  spacingTolerance : Float := Utility.defaultTolerance
  /-- takes the place of the name of the root -/
  componentName : Option String := none
deriving Repr, Inhabited

structure Request where
  root : StyledNode
  framework : Framework
  rules : List Rule := []
  /-- evaluations by the ids of nodes; other nodes are evaluated when they are needed -/
  resolved : Dict RuleEvaluation := ∅
  options : GenerateOptions := {}
  variableTable : Variables := ∅

/-- values with gaps for other values are not written -/
def isUsableValue (value : String) : Bool :=
  Text.trim value ≠ "" && !Text.contains "$value" value && !Text.contains "$\x7b" value

/-- a property in kebab case: backgroundColor is background-color -/
def kebabProperty (key : String) : String :=
  Text.onChars (List.flatMap fun c => if Chars.isAsciiUpper c then ['-', c.toLower] else [c]) key

namespace Request

def componentName (r : Request) : String :=
  Naming.pascal (r.options.componentName.getD r.root.uniqueName)

def evaluation (r : Request) (n : StyledData) : RuleEvaluation :=
  (r.resolved.get? n.id).getD (evaluate r.rules r.framework n.source)

/-- the declarations of rules that can be written -/
def ruleDeclarations (r : Request) (n : StyledData) : List Declaration :=
  ((r.evaluation n).declarations.filter fun d => isUsableValue d.2.show).map fun d =>
    (kebabProperty d.1, d.2)

def styles (r : Request) (n : StyledData) : Styles := n.styles.write (r.ruleDeclarations n)

def ruleClasses (r : Request) (n : StyledData) : Option String :=
  (r.evaluation n).className.filter isUsableValue

/-- the definitions of the variables, if there are any -/
def rootVariables (r : Request) : Option String :=
  if r.variableTable.isEmpty then none else some r.variableTable.rootBlock

end Request
end Handoff
