import Handoff.Generation.Code
import Handoff.Json.Printer
import Handoff.Resource

/-!
# Reports

What a run has to tell: the code that it generated, the styled tree, the rules that nodes owe their
styles to, or the fault that stopped it.

* `Report.toJson`    the report for programs;
* `Report.summary`   the report for readers, in colours if the terminal has them.
-/

namespace Handoff

def reportVersion : String := "0.1.0"

/-- the input as it was given, and its kind -/
structure ReportInput where
  kind : Resource.Kind
  value : String
deriving Repr

def Resource.input (r : Resource) : ReportInput := ⟨r.kind, r.value⟩

/-- which rules match a node, what they give to it, and where they disagree -/
structure NodeExplanation where
  nodeId : String
  name : String
  properties : Styles := ∅
  provenance : Dict String := ∅
  matchedRules : List String := []
  conflicts : List RuleConflict := []
deriving Repr

def NodeExplanation.of (n : StyledNode) (e : RuleEvaluation) : NodeExplanation where
  nodeId := n.id
  name := n.name
  properties := e.properties
  provenance := e.provenance
  matchedRules := e.matchedRules
  conflicts := e.conflicts

inductive Report where
  /-- `time` is when the code was made, and `written` are the files that hold it -/
  | generated (input : ReportInput) (code : GeneratedCode) (time : String) (written : List String)
  | transformed (input : ReportInput) (nodeCount : Nat) (tree : Json)
  | explained (input : ReportInput) (framework : Framework) (ruleCount nodeCount : Nat)
      (nodes : List NodeExplanation)
  /-- `message` takes the place of that of the notice -/
  | failed (message : Option String) (notice : Notice)

def Report.ofFault (f : Fault) : Report := .failed (some f.notice.message) f.notice

/-! ## as JSON -/

def ReportInput.toJson (i : ReportInput) : Json :=
  .obj [("kind", .str i.kind.name), ("value", .str i.value)]

def NodeExplanation.toJson (n : NodeExplanation) : Json := .obj [
  ("nodeId", .str n.nodeId), ("name", .str n.name), ("properties", n.properties.toJson),
  ("provenance", .obj (n.provenance.entries.map fun e => (e.1, .str e.2))),
  ("matchedRules", .ofStrings n.matchedRules),
  ("conflicts", .ofList RuleConflict.toJson n.conflicts)]

def Notice.toJson (n : Notice) : Json := .obj (
  [("category", .str n.category.name), ("message", .str n.message)]
    ++ Json.member? "remediation" .str n.remediation)

namespace Report

def mode : Report → String
  | .generated .. => "generate"
  | .transformed .. => "transform"
  | .explained .. => "explain"
  | .failed .. => "error"

def members : Report → List (String × Json)
  | .generated input code time written =>
    [("input", input.toJson), ("framework", .str code.framework.name),
      ("result", code.toJson (some time))] ++ Json.listMember "written" .str written
  | .transformed input nodeCount tree =>
    [("input", input.toJson), ("nodeCount", .ofNat nodeCount), ("tree", tree)]
  | .explained input framework ruleCount nodeCount nodes =>
    [("input", input.toJson), ("framework", .str framework.name), ("ruleCount", .ofNat ruleCount),
      ("nodeCount", .ofNat nodeCount), ("nodes", .ofList NodeExplanation.toJson nodes)]
  | .failed message notice => Json.member? "message" .str message ++ [("error", notice.toJson)]

def toJson (r : Report) : Json :=
  .obj ([("mode", .str r.mode), ("version", .str reportVersion)] ++ r.members)

/-! ## for readers -/

inductive Colour where
  | red
  | yellow
  | blue
  | magenta
  | cyan
deriving DecidableEq, Repr

def Colour.code : Colour → String
  | .red => "31"
  | .yellow => "33"
  | .blue => "34"
  | .magenta => "35"
  | .cyan => "36"

/-- a text between the marks that turn a colour on and off -/
def paint (coloured : Bool) (c : Colour) (s : String) : String :=
  if coloured then "\x1b[" ++ c.code ++ "m" ++ s ++ "\x1b[0m" else s

/-- explanations that a summary has room for -/
def maxExplained : Nat := 50

def kindLabel : Resource.Kind → String
  | .file => "File"
  | .figma => "Figma"

def severityLabel : Severity → String
  | .minor => "Minor"
  | .major => "Major"

def inputLine (i : ReportInput) : String :=
  "Input: " ++ i.value ++ " (kind: " ++ kindLabel i.kind ++ ")"

/-- a heading over a list, if there is anything in it -/
def listed (heading : String) (entries : List String) : List String :=
  if entries.isEmpty then [] else heading :: entries.map ("- " ++ ·)

def conflictLine (c : RuleConflict) : String :=
  "    ! " ++ c.property ++ ": " ++ c.winner ++ " overrides "
    ++ String.intercalate ", " c.overridden ++ " (" ++ severityLabel c.severity ++ ")"

def explanationLines (coloured : Bool) (n : NodeExplanation) : List String :=
  ("- " ++ n.name ++ " (" ++ n.nodeId ++ "): " ++ String.intercalate ", " n.matchedRules)
    :: n.provenance.entries.map (fun e => "    " ++ e.1 ++ " <- " ++ e.2)
    ++ n.conflicts.map fun c => paint coloured .yellow (conflictLine c)

def lines (coloured : Bool) : Report → List String
  | .generated input code _ written =>
    [paint coloured .cyan "[GENERATE]" ++ " " ++ code.componentName ++ " (" ++ code.framework.name
        ++ ", root " ++ code.nodeId ++ ")", inputLine input]
      ++ listed (paint coloured .yellow "Warnings:") code.warnings
      ++ listed "Written:" written
      ++ (code.fontsUrl.map ("Fonts: " ++ ·)).toList
      ++ ["", code.code]
  | .transformed input nodeCount tree =>
    [paint coloured .blue "[TRANSFORM]" ++ " " ++ toString nodeCount ++ " nodes", inputLine input,
      Json.renderPretty tree]
  | .explained _ framework ruleCount nodeCount nodes =>
    (paint coloured .magenta "[EXPLAIN]" ++ " " ++ toString nodes.length ++ " of "
        ++ toString nodeCount ++ " nodes matched by " ++ toString ruleCount ++ " rules ("
        ++ framework.name ++ ")")
      :: (nodes.take maxExplained).flatMap (explanationLines coloured)
      ++ (if maxExplained < nodes.length then
          ["... " ++ toString (nodes.length - maxExplained) ++ " more"] else [])
  | .failed message notice =>
    (paint coloured .red "[ERROR]" ++ " " ++ message.getD notice.message)
      :: (notice.remediation.map ("Hint: " ++ ·)).toList

/-- every line has its end -/
def summary (coloured : Bool) (r : Report) : String :=
  String.join ((r.lines coloured).map (· ++ "\n"))

end Report
end Handoff
