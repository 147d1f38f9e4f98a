import Handoff.Command.Arguments
import Handoff.Design.Document
import Handoff.Json.Parser
import Handoff.Report
import Handoff.Rule.Reader
import Handoff.Styled.Overlay
import Handoff.Styled.View

/-!
# Running a command

A command reads files, may write some, and has one report.  The first fault ends it; files that were
written before stay.

* `Invocation.run`     the exit code, what is printed, and the files afterwards.
-/

namespace Handoff

/-- what a run finds around it -/
structure Surroundings where
  files : Files := ∅
  /-- the directory with the settings of the user -/
  home : Option String := none
  /-- the time of the run, as it is written into reports -/
  time : String
  /-- whether a reader looks at what is printed -/
  isTerminal : Bool := false

structure Outcome where
  exitCode : Nat
  printed : String := ""
  files : Files

/-- a computation that may change files before it fails -/
abbrev Run (α : Type) := ExceptT Fault (StateM Files) α

namespace Run

def orFault {α ε : Type} (fault : ε → Fault) (result : Except ε α) : Run α :=
  match result with
  | .ok a => pure a
  | .error e => throw (fault e)

/-- a file that must be there -/
def readFile (fault : FileFault → Fault) (path : String) : Run String := do
  orFault fault ((← get).read path)

/-- an operation on the files -/
def change (operation : Files → Except FileFault Files) : Run Unit := do
  set (← orFault Fault.file (operation (← get)))

def json (fault : Fault) (text : String) : Run Json := orFault (fun _ => fault)
  (match Json.parse? text with
    | some v => Except.ok v
    | none => .error ())

/-- a document of which only the parts in a shape are wanted -/
def decoded {α : Type} (fault : DocumentFault → Fault) (shape : Json.Shape) (d : Decoder α)
    (text : String) : Run α :=
  match (Json.parseAs? shape text).map d with
  | some (some a) => return a
  | some none => throw (fault .wrongShape)
  | none => throw (fault .syntaxError)

/-! ## inputs -/

/-- the settings of the user, where no others are named -/
def homeSettings (home : String) : String :=
  Path.join (Path.join (Path.join home ".config") "fcg") "config.toml"

def settingsAt (path : String) : Run Settings := do
  let fault := fun cause => Fault.config (.unreadableConfig path cause)
  match Settings.parse? (← readFile (fun cause => fault (.file cause)) path) with
  | some settings => return settings
  | none => throw (fault .syntaxError)

/-- the named settings, or else those of the user, or else the defaults -/
def loadSettings (home path : Option String) : Run Settings := do
  let files ← get
  let source := path <|> (home.map homeSettings).filter files.isFile
  let settings ← match source with
    | some path => settingsAt path
    | none => pure {}
  orFault (fun cause => .config (.invalidConfig path cause)) settings.check
  return settings

/-- a design and where it comes from; those of the service are out of reach without a token -/
def loadDesign (input : String) : Run (Resource × DesignNode) := do
  let resource ← orFault (fun cause => .config (.resource cause)) (Resource.locate (← get) input)
  match resource with
  | .file path =>
    let document ← json (.config (.inputNotJson path)) (← readFile .file path)
    return (resource, ← orFault id (DesignNode.ofDocument document none))
  | .design _ _ _ => throw (.config .tokenRequired)

def loadVariables : Option String → Run Variables
  | none => return ∅
  | some path => do
    let text ← readFile (fun cause => .config (.unreadableVariables path cause)) path
    orFault id (Variables.ofJson (← json (.document .syntaxError) text))

def isYaml (path : String) : Bool :=
  ["yaml", "yml"].contains (Text.asciiLower (Path.extension path))

def loadRules : Option String → Run (List Rule)
  | none => return []
  | some path => do
    let text ← readFile .file path
    orFault id (if isYaml path then Rule.ofYamlText text else Rule.ofJsonText text)

def loadOverlays : Option String → Run Overlays
  | none => return ∅
  | some path => do
    let text ← readFile (fun cause => .config (.unreadableOverlays path cause)) path
    decoded .document Overlays.shape Overlays.ofJson? text

def loadAssets : Option String → Run AssetSource
  | none => return .empty
  | some path => do
    let text ← readFile (fun cause => .asset (.unreadable path cause)) path
    let fault := fun cause => Fault.asset (.invalid path cause)
    return .table (← decoded fault AssetTable.shape AssetTable.ofJson? text)

/-- a tree that is not empty -/
def styled (settings : Settings) (hidden : HiddenMode) (table : Variables)
    (root : DesignNode) : Run StyledNode :=
  let policy : Policy := { variableTable := table, hidden, icons := settings.icons }
  match (({ policy } : Session).style root).1 with
  | some tree => pure tree
  | none => throw (.config (.emptyRoot root.id))

/-! ## outputs -/

/-- writes a file, and the directories around it -/
def writeInto (directory name content : String) : Run String := do
  let path := Path.join directory name
  change fun files => files.makeDirectories (Path.directory path)
  change fun files => files.write path content
  return path

/-- writes the code and the files that it imports, and tells their paths, that of the code first -/
def writeCode (directory : String) (code : GeneratedCode) : Run (List String) := do
  change fun files => files.makeDirectories directory
  let first ← writeInto directory (code.componentName ++ "." ++ code.framework.language) code.code
  let others ← code.files.mapM fun f =>
    writeInto directory ((Text.dropPrefix? "./" f.path).getD f.path) f.content
  return first :: others

/-! ## reports -/

def generate (s : Surroundings) (config : Option String) (options : InputOptions)
    (choices : Choices) (paths : GenerateOptionPaths) : Run Report := do
  let settings ← loadSettings s.home config
  let effective := settings.choose choices
  let (resource, root) ← loadDesign options.input
  let table ← loadVariables options.variableFile
  let rules ← loadRules paths.rules
  let overlays ← loadOverlays paths.responsive
  let tree := overlays.apply (← styled settings effective.hidden table root)
  let request : Request := {
    root := tree
    framework := effective.framework
    rules
    resolved := evaluateTree rules effective.framework tree
    options := effective.options
    variableTable := table }
  let code := request.generate (← loadAssets paths.assets)
  let written ← match paths.outDir with
    | some directory => writeCode directory code
    | none => pure []
  return .generated resource.input code s.time written

def transform (s : Surroundings) (config : Option String) (options : InputOptions) :
    Run Report := do
  let settings ← loadSettings s.home config
  let (resource, root) ← loadDesign options.input
  let table ← loadVariables options.variableFile
  let tree ← styled settings (options.hidden.getD settings.hidden) table root
  return .transformed resource.input tree.size tree.toJson

/-- the explanations of nodes that rules match; of several nodes with one id it is the first that
takes the evaluation -/
def explanations : Dict RuleEvaluation → List StyledNode → List NodeExplanation
  | _, [] => []
  | evaluations, n :: ns =>
    let rest := explanations (evaluations.erase n.id) ns
    match evaluations.get? n.id with
    | some e => if e.isEmpty then rest else .of n e :: rest
    | none => rest

def explain (s : Surroundings) (config : Option String) (options : InputOptions) (path : String)
    (framework : Option Framework) : Run Report := do
  let settings ← loadSettings s.home config
  let framework := framework.getD settings.framework
  let rules ← loadRules (some path)
  let (resource, root) ← loadDesign options.input
  let table ← loadVariables options.variableFile
  let tree ← styled settings (options.hidden.getD settings.hidden) table root
  let nodes := explanations (evaluateTree rules framework tree) tree.preOrder
  return .explained resource.input framework rules.length tree.size nodes

def report (s : Surroundings) (i : Invocation) : Run Report :=
  match i.command with
  | .generate options choices paths => generate s i.config options choices paths
  | .transform options => transform s i.config options
  | .explain options rules framework => explain s i.config options rules framework

end Run

/-- the paths that a run may look at, apart from those of the files that it makes -/
def Invocation.paths (i : Invocation) (home : Option String) : List String :=
  let options := i.command.options
  let own := match i.command with
    | .generate _ _ paths =>
      [paths.rules, paths.assets, paths.responsive, paths.outDir].flatMap Option.toList
    | .transform _ => []
    | .explain _ rules _ => [rules]
  [i.config, home.map Run.homeSettings, options.variableFile, options.output].flatMap Option.toList
    ++ (if Resource.isAddress options.input then [] else [options.input]) ++ own

/-! ## the outcome -/

/-- the text of a report; what goes to a file or to another program is JSON in either format -/
def Report.render (r : Report) (format : OutputFormat) (forReader : Bool) : String :=
  match format with
  | .json => Json.render r.toJson
  | .pretty => if forReader then r.summary true else Json.renderPretty r.toJson

namespace Invocation

def faultExitCode : Nat := 2

/-- a text on the output that ends its line -/
def printing (exitCode : Nat) (text : String) (files : Files) : Outcome :=
  ⟨exitCode, text ++ "\n", files⟩

/-- reports a fault; if the file for it cannot be written, JSON on one line is printed instead -/
def failed (s : Surroundings) (format : OutputFormat) (output : Option String) (files : Files)
    (f : Fault) : Outcome :=
  let text := (Report.ofFault f).render format (s.isTerminal && output.isNone)
  match output with
  | none => printing faultExitCode text files
  | some path =>
    match files.write path text, format with
    | .ok files, _ => ⟨faultExitCode, "", files⟩
    | .error _, .json => printing faultExitCode text files
    | .error _, .pretty => ⟨faultExitCode, "", files⟩

def succeeded (s : Surroundings) (format : OutputFormat) (output : Option String) (files : Files)
    (r : Report) : Outcome :=
  let text := r.render format (s.isTerminal && output.isNone)
  match output with
  | none => printing 0 text files
  | some path =>
    match files.write path text with
    | .ok files => ⟨0, "", files⟩
    | .error cause => failed s format none files (.config (.outputFile cause))

def run (i : Invocation) (s : Surroundings) : Outcome :=
  let options := i.command.options
  match (Run.report s i).run s.files with
  | (.ok r, files) => succeeded s options.format options.output files r
  | (.error f, files) => failed s options.format options.output files f

end Invocation
end Handoff
