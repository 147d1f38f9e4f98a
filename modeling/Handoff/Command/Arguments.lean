import Handoff.Framework
import Handoff.Settings

/-!
# Arguments of the command line

Arguments are read from left to right: first options that hold for every command, then a command and
its own options.  The value of an option is looked at when the next option comes, or at the end.

* `Invocation.ofArguments`    the command and its options, or why there is nothing to run.
-/

namespace Handoff

/-- why the arguments are not run -/
inductive Usage where
  | help
  | version
  | helpWithoutArguments
  | missingCommand
  | unknownCommand
  | unknownArgument
  | missingOption
  | repeatedOption
  | unexpectedValue
  /-- an option has no value, or one that is not among those it can have -/
  | badValue
  /-- the value of an option cannot be read -/
  | unreadableValue
deriving DecidableEq, Repr

/-- to ask for help or for the version is no mistake -/
def Usage.exitCode : Usage → Nat
  | .help | .version => 0
  | _ => 2

def programName : String := "fcg"

def programVersion : String := "0.1.0"

def helpText : String := String.intercalate "\n" [
  "Usage: " ++ programName ++ " [--verbose] [--config PATH] COMMAND --input INPUT [OPTIONS]",
  "",
  "Commands:",
  "  generate   write a component for a design",
  "  transform  print the styled tree of a design as JSON",
  "  explain    print the rules that the nodes of a design owe their styles to",
  "",
  "Options of all commands:",
  "  --input INPUT         a JSON file or the address of a design",
  "  --hidden MODE         hidden nodes: drop, preserve",
  "  --variables PATH      design variables",
  "  --format FORMAT       json, pretty",
  "  -o, --output PATH     a file in the place of the standard output",
  "  --framework NAME      react-tailwind, react-tailwind-v4, html-css (not for transform)",
  "  --rules PATH          style rules (not for transform)",
  "",
  "Options of generate:",
  "  --assets PATH         images and drawings",
  "  --responsive PATH     styles for wider screens",
  "  --svg-mode MODE       inline, export",
  "  --with-props          texts and images become properties of the component",
  "  --name NAME           the name of the component",
  "  --out-dir DIR         a directory for the component and its files",
  ""]

def Usage.text (u : Usage) : String :=
  let problem := fun s => "error: " ++ s ++ "\n\n" ++ helpText
  match u with
  | .help | .helpWithoutArguments => helpText
  | .version => programName ++ " " ++ programVersion ++ "\n"
  | .missingCommand => problem "a command is missing"
  | .unknownCommand => problem "there is no such command"
  | .unknownArgument => problem "an argument is not known"
  | .missingOption => problem "an option is missing"
  | .repeatedOption => problem "an option is given more than once"
  | .unexpectedValue => problem "an option takes no value"
  | .badValue => problem "an option has no value or not one of its values"
  | .unreadableValue => problem "the value of an option cannot be read"

/-! ## options -/

inductive OptionName where
  | verbose
  | config
  | input
  | hidden
  | variableFile
  | format
  | output
  | framework
  | rules
  | assets
  | responsive
  | svgMode
  | withProps
  | name
  | outDir
deriving DecidableEq, Repr

inductive CommandName where
  | generate
  | transform
  | explain
deriving DecidableEq, Repr

def CommandName.names : List (String × CommandName) :=
  [("generate", .generate), ("transform", .transform), ("explain", .explain)]

inductive OutputFormat where
  | json
  | pretty
deriving DecidableEq, Repr

def OutputFormat.names : List (String × OutputFormat) := [("json", .json), ("pretty", .pretty)]

def OutputFormat.parse? (s : String) : Option OutputFormat := names.lookup s

namespace OptionName

def long : OptionName → String
  | .verbose => "verbose"
  | .config => "config"
  | .input => "input"
  | .hidden => "hidden"
  | .variableFile => "variables"
  | .format => "format"
  | .output => "output"
  | .framework => "framework"
  | .rules => "rules"
  | .assets => "assets"
  | .responsive => "responsive"
  | .svgMode => "svg-mode"
  | .withProps => "with-props"
  | .name => "name"
  | .outDir => "out-dir"

def takesValue : OptionName → Bool
  | .verbose | .withProps => false
  | _ => true

/-- the options of every command -/
def shared : List OptionName := [.verbose, .config]

/-- the options of all commands that read a design -/
def ofInput : List OptionName := [.input, .hidden, .variableFile, .format, .output]

def allowed : Option CommandName → List OptionName
  | none => shared
  | some .generate => shared ++ ofInput
    ++ [.framework, .rules, .assets, .responsive, .svgMode, .withProps, .name, .outDir]
  | some .transform => shared ++ ofInput
  | some .explain => shared ++ ofInput ++ [.rules, .framework]

/-- the options without which a command cannot run -/
def required : CommandName → List OptionName
  | .generate | .transform => [.input]
  | .explain => [.input, .rules]

/-- the complaint about a value, if there is one; paths are not empty -/
def complaint? (o : OptionName) (value : String) : Option Usage :=
  match o with
  | .hidden => if (HiddenMode.parse? value).isSome then none else some .badValue
  | .format => if (OutputFormat.parse? value).isSome then none else some .badValue
  | .framework => if (Framework.parse? value).isSome then none else some .unreadableValue
  | .svgMode => if (SvgMode.parse? value).isSome then none else some .unreadableValue
  | .config | .variableFile | .output | .rules | .assets | .responsive | .outDir =>
    if value = "" then some .badValue else none
  | .verbose | .input | .withProps | .name => none

end OptionName

/-! ## reading -/

/-- the options so far, and the one whose value is awaited or still has to be looked at -/
structure ArgumentReading where
  given : List (OptionName × String) := []
  pending : Option (OptionName × Option String) := none

namespace ArgumentReading

/-- takes an option with its value -/
def take (r : ArgumentReading) (o : OptionName) (value : String) : Except Usage ArgumentReading :=
  if (r.given.lookup o).isSome then .error .repeatedOption
  else match o.complaint? value with
    | some u => .error u
    | none => .ok { r with given := r.given ++ [(o, value)] }

/-- looks at the pending value -/
def settle (r : ArgumentReading) : Except Usage ArgumentReading :=
  match r.pending with
  | none => .ok r
  | some (_, none) => .error .badValue
  | some (o, some value) => { r with pending := none }.take o value

/-- whether the next argument is a value, if it does not look like an option -/
def awaited? (r : ArgumentReading) : Option OptionName :=
  match r.pending with
  | some (o, none) => some o
  | _ => none

/-- an option that takes a value, with the one that is attached to it -/
def option (r : ArgumentReading) (o : OptionName) (attached : Option String) :
    Except Usage ArgumentReading := do
  let r ← r.settle
  match attached with
  | some value => r.take o value
  | none => return { r with pending := some (o, none) }

/-- asks for something else than a run -/
def stop (r : ArgumentReading) (u : Usage) : Except Usage ArgumentReading := do
  let _ ← r.settle
  throw u

/-- an argument after two hyphens -/
def longOption (allowed : List OptionName) (r : ArgumentReading) (body : String) :
    Except Usage ArgumentReading :=
  let (name, attached) := match Text.cut? '=' body with
    | some (name, value) => (name, some value)
    | none => (body, none)
  if name = "help" || name = "version" then
    if attached.isSome then .error .unexpectedValue
    else r.stop (if name = "help" then .help else .version)
  else match allowed.find? fun o => o.long == name with
    | none => .error .unknownArgument
    | some o =>
      if o.takesValue then r.option o attached
      else if attached.isSome then .error .unexpectedValue
      else do (← r.settle).take o ""

/-- an argument after one hyphen -/
def shortOption (allowed : List OptionName) (r : ArgumentReading) :
    List Char → Except Usage ArgumentReading
  | 'h' :: _ => r.stop .help
  | 'V' :: _ => r.stop .version
  | 'o' :: value =>
    if allowed.contains .output then
      r.option .output (match value with
        | [] => none
        | '=' :: value => some (String.ofList value)
        | value => some (String.ofList value))
    else .error .unknownArgument
  | _ => .error .unknownArgument

/-- reads the options of a command -/
def run (command : CommandName) (r : ArgumentReading) : List String → Except Usage ArgumentReading
  | [] => r.settle
  | arg :: args =>
    let allowed := OptionName.allowed (some command)
    match arg.toList, r.awaited? with
    | ['-', '-'], _ => if args.isEmpty then r.settle else .error .unknownArgument
    | '-' :: '-' :: body, _ =>
      (r.longOption allowed (String.ofList body)).bind fun r => run command r args
    | '-' :: c :: body, _ => (r.shortOption allowed (c :: body)).bind fun r => run command r args
    | _, some o => run command { r with pending := some (o, some arg) } args
    | _, none => .error .unknownArgument

end ArgumentReading

/-! ## commands -/

/-- the options that all commands share -/
structure InputOptions where
  input : String
  hidden : Option HiddenMode := none
  variableFile : Option String := none
  format : OutputFormat := .json
  output : Option String := none
deriving Repr

structure GenerateOptionPaths where
  rules : Option String := none
  assets : Option String := none
  responsive : Option String := none
  outDir : Option String := none
deriving Repr

inductive Command where
  | generate (options : InputOptions) (choices : Choices) (paths : GenerateOptionPaths)
  | transform (options : InputOptions)
  | explain (options : InputOptions) (rules : String) (framework : Option Framework)
deriving Repr

def Command.options : Command → InputOptions
  | .generate options _ _ => options
  | .transform options => options
  | .explain options _ _ => options

structure Invocation where
  command : Command
  verbose : Bool := false
  config : Option String := none
deriving Repr

namespace Invocation

/-- the command that options are given for; those before it give way to those after it -/
def ofOptions (command : CommandName) (before given : List (OptionName × String)) : Invocation :=
  let framework := (given.lookup .framework).bind Framework.parse?
  let hidden := (given.lookup .hidden).bind HiddenMode.parse?
  let options : InputOptions := {
    input := (given.lookup .input).getD ""
    hidden
    variableFile := given.lookup .variableFile
    format := ((given.lookup .format).bind OutputFormat.parse?).getD .json
    output := given.lookup .output }
  let choices : Choices := {
    framework
    hidden
    svgMode := (given.lookup .svgMode).bind SvgMode.parse?
    withProps := (given.lookup .withProps).isSome
    componentName := given.lookup .name }
  let paths : GenerateOptionPaths := {
    rules := given.lookup .rules
    assets := given.lookup .assets
    responsive := given.lookup .responsive
    outDir := given.lookup .outDir }
  let all := given ++ before
  { command := match command with
      | .generate => .generate options choices paths
      | .transform => .transform options
      | .explain => .explain options ((given.lookup .rules).getD "") framework
    verbose := (all.lookup .verbose).isSome
    config := all.lookup .config }

/-- a request for help names a command or none -/
def helpFor : List String → Usage
  | [] => .help
  | [name] =>
    if name = "help" || (CommandName.names.lookup name).isSome then .help else .unknownCommand
  | _ => .unknownCommand

/-- a name that has to be that of a command, whose options are looked at before those before it -/
def ofCommand (before : ArgumentReading) (name : String) (args : List String) :
    Except Usage Invocation := do
  match CommandName.names.lookup name with
  | some command =>
    let own ← ArgumentReading.run command {} args
    if !((OptionName.required command).all fun o => (own.given.lookup o).isSome) then
      throw .missingOption
    let before ← before.settle
    return ofOptions command before.given own.given
  | none => throw (if name = "help" then helpFor args else .unknownCommand)

/-- after two hyphens there are no options and no commands any more -/
def afterHyphens (r : ArgumentReading) : List String → Except Usage Invocation
  | [] => do
    let r ← r.settle
    throw (if r.given.isEmpty then .helpWithoutArguments else .missingCommand)
  | name :: _ =>
    .error (if name = "help" || (CommandName.names.lookup name).isSome then .unknownArgument
      else .unknownCommand)

def read (r : ArgumentReading) : List String → Except Usage Invocation
  | [] => afterHyphens r []
  | arg :: args =>
    let allowed := OptionName.allowed none
    match arg.toList, r.awaited? with
    | ['-', '-'], _ => afterHyphens r args
    | '-' :: '-' :: body, _ =>
      (r.longOption allowed (String.ofList body)).bind fun r => read r args
    | '-' :: c :: body, _ => (r.shortOption allowed (c :: body)).bind fun r => read r args
    | _, some o => read { r with pending := some (o, some arg) } args
    | _, none => ofCommand r arg args

def ofArguments (args : List String) : Except Usage Invocation := read {} args

end Invocation
end Handoff
