import Handoff.Decimal.Notation
import Handoff.Text.Basic

/-!
# What can go wrong

A `Fault` is a cause; the wording of every cause is in one `message` function.  A fault is shown to
a reader as a `Notice`: a category, the message, and a hint on what to do about it.

* `Fault.message`   the text without the kind of fault;
* `Fault.display`   the text with it;
* `Fault.notice`    category, text and hint.  For faults of configuration the hint is chosen by
                    what the text mentions.
-/

namespace Handoff

/-- the causes for which an address is refused -/
inductive UrlFault where
  | emptyHost
  | invalidPort
  | invalidIpv6
  | invalidIpv4
  | invalidDomain
  | invalidDomainCharacter
  | relativeWithoutBase
deriving DecidableEq, Repr

def UrlFault.message : UrlFault → String
  | .emptyHost => "empty host"
  | .invalidPort => "invalid port number"
  | .invalidIpv6 => "invalid IPv6 address"
  | .invalidIpv4 => "invalid IPv4 address"
  | .invalidDomain => "invalid international domain name"
  | .invalidDomainCharacter => "invalid domain character"
  | .relativeWithoutBase => "relative URL without a base"

/-- the causes for which a file cannot be read or written -/
inductive FileFault where
  | missing
  | exists
  | notADirectory
  | isADirectory
  | nameTooLong
deriving DecidableEq, Repr

def FileFault.message : FileFault → String
  | .missing => "No such file or directory (os error 2)"
  | .exists => "File exists (os error 17)"
  | .notADirectory => "Not a directory (os error 20)"
  | .isADirectory => "Is a directory (os error 21)"
  | .nameTooLong => "File name too long (os error 36)"

/-- the causes for which a text cannot be read as a document -/
inductive DocumentFault where
  | syntaxError
  | wrongShape
  | notANode
deriving DecidableEq, Repr

def DocumentFault.message : DocumentFault → String
  | .syntaxError => "the text is not well formed"
  | .wrongShape => "a value has an unexpected shape"
  | .notANode => "design node must be a JSON object"

/-- the causes for which an input cannot be located -/
inductive ResourceFault where
  | invalidUrl (value : String) (cause : UrlFault)
  | missingFileKey (url : String)
  | notFigma (url : String)
  | fileNotFound (path : String)
  | unsupportedExtension (extension : String)
deriving DecidableEq, Repr

def inputExtensions : List String := ["json"]

def ResourceFault.message : ResourceFault → String
  | .invalidUrl value cause => "Invalid URL '" ++ value ++ "': " ++ cause.message
      ++ ". Hint: include http(s):// and ensure the URL is well-formed."
  | .missingFileKey url => "Figma URL missing file key in '" ++ url
      ++ "'. Hint: use https://www.figma.com/design/<FILE_KEY>/... and node-id if needed."
  | .notFigma url => "Only Figma URLs are supported as remote inputs, got '" ++ url ++ "'."
  | .fileNotFound path => "Local file not found: " ++ path
      ++ ". Hint: check the path relative to the current working directory or use an absolute path."
  | .unsupportedExtension extension => "Unsupported file extension '"
      ++ (if extension = "" then "no extension" else extension)
      ++ "'. Supported input extensions: " ++ String.intercalate ", " inputExtensions ++ "."

/-- the values of a configuration that are out of range -/
inductive SettingFault where
  | spacingTolerance (value : Float)
  | iconSizes
  | timeout
  | baseUrl (value : String) (cause : UrlFault)
deriving Repr

def SettingFault.message : SettingFault → String
  | .spacingTolerance value =>
    "spacing_tolerance must be between 0 and 0.5, got " ++ Decimal.plain value
  | .iconSizes => "icon size thresholds must be positive"
  | .timeout => "figma.timeout must be greater than zero"
  | .baseUrl value cause => "figma.base_url '" ++ value ++ "' is invalid: " ++ cause.message

/-- what kept a configuration file from being read -/
inductive ConfigReadFault where
  | file (cause : FileFault)
  | syntaxError
deriving DecidableEq, Repr

def ConfigReadFault.message : ConfigReadFault → String
  | .file cause => cause.message
  | .syntaxError => "TOML parse error"

inductive ConfigFault where
  | inputNotAnObject
  | noNodes
  | inputNotJson (path : String)
  | resource (cause : ResourceFault)
  | tokenRequired
  | tokenRejected
  | emptyRoot (id : String)
  | unreadableVariables (path : String) (cause : FileFault)
  | unreadableOverlays (path : String) (cause : FileFault)
  | unreadableConfig (path : String) (cause : ConfigReadFault)
  | invalidConfig (path : Option String) (cause : SettingFault)
  | outputFile (cause : FileFault)
  | other (message : String)
deriving Repr

def ConfigFault.message : ConfigFault → String
  | .inputNotAnObject =>
    "Input JSON must be an object (a Figma node, file or nodes response)"
  | .noNodes => "Nodes response contains no nodes"
  | .inputNotJson path =>
    "Input " ++ path ++ " is not valid JSON: " ++ DocumentFault.syntaxError.message
  | .resource cause => cause.message
  | .tokenRequired => "Figma token missing; set FIGMA_TOKEN or FIGMA_OAUTH_TOKEN"
  | .tokenRejected => "Missing Figma token; set FIGMA_TOKEN or FIGMA_OAUTH_TOKEN"
  | .emptyRoot id =>
    "Root node " ++ id ++ " produced no output (hidden or empty); try --hidden preserve"
  | .unreadableVariables path cause =>
    "Failed to read variables file " ++ path ++ ": " ++ cause.message
  | .unreadableOverlays path cause =>
    "Failed to read responsive overlays " ++ path ++ ": " ++ cause.message
  | .unreadableConfig path cause => "Failed to read config " ++ path ++ ": " ++ cause.message
  | .invalidConfig (some path) cause => "Invalid config (" ++ path ++ "): " ++ cause.message
  | .invalidConfig none cause => "Invalid config: " ++ cause.message
  | .outputFile cause => cause.message
  | .other message => message

/-- what the design service answered, or what its answer lacks -/
inductive ServiceFault where
  | nodeNotInResponse (id : String)
  | noDocument
  | nullEntry
  | nodeNotFound (id : String)
  | rateLimited (seconds : Nat)
  | other (message : String)
deriving DecidableEq, Repr

def ServiceFault.message : ServiceFault → String
  | .nodeNotInResponse id => "Node " ++ id ++ " not found in nodes response"
  | .noDocument => "Nodes response entry has no document"
  | .nullEntry => "Nodes response entry is null; check the node-id"
  | .nodeNotFound id => "Node not found: " ++ id
  | .rateLimited seconds => "Rate limited, retry after " ++ toString seconds ++ " seconds"
  | .other message => message

inductive RulesFault where
  | notAList
  | other (message : String)
deriving DecidableEq, Repr

def RulesFault.message : RulesFault → String
  | .notAList => "rule file must be a list of rules or an object with a `rules` list"
  | .other message => message

inductive AssetFault where
  | unreadable (path : String) (cause : FileFault)
  | invalid (path : String) (cause : DocumentFault)
  | other (message : String)
deriving DecidableEq, Repr

def AssetFault.message : AssetFault → String
  | .unreadable path cause => "Failed to read assets file " ++ path ++ ": " ++ cause.message
  | .invalid path cause => "Invalid assets file " ++ path ++ ": " ++ cause.message
  | .other message => message

inductive Fault where
  | file (cause : FileFault)
  | io (message : String)
  | network (message : String)
  | url (cause : UrlFault)
  | service (status : Option Nat) (cause : ServiceFault)
  | document (cause : DocumentFault)
  | yaml
  | rules (cause : RulesFault)
  | asset (cause : AssetFault)
  | config (cause : ConfigFault)
  | unknown (message : String)
deriving Repr

inductive FaultCategory where
  | config
  | network
  | figma
  | rules
  | asset
  | unknown
deriving DecidableEq, Repr

namespace FaultCategory

def name : FaultCategory → String
  | .config => "config"
  | .network => "network"
  | .figma => "figma"
  | .rules => "rules"
  | .asset => "asset"
  | .unknown => "unknown"

def names : List (String × FaultCategory) :=
  [.config, .network, .figma, .rules, .asset, .unknown].map fun c => (c.name, c)

end FaultCategory

structure Notice where
  category : FaultCategory
  message : String
  remediation : Option String
deriving Repr

def statusText : Option Nat → String
  | some n => "Some(" ++ toString n ++ ")"
  | none => "None"

/-- the hint for a fault of configuration: the first line whose words the text mentions -/
def configHint (message : String) : String :=
  let lower := Text.asciiLower message
  let has := fun piece => Text.contains piece lower
  if has "figma_token" || has "figma token" then
    "Set FIGMA_TOKEN (or FIGMA_OAUTH_TOKEN) before running Figma inputs."
  else if has "node-id" then "Include a Figma node-id in the URL (e.g., ?node-id=1-2)."
  else if has "file key" && has "figma" then
    "Use a Figma URL with a file key: https://www.figma.com/design/<FILE_KEY>/... with node-id."
  else if has "unsupported framework" then
    "Use one of: react-tailwind, react-tailwind-v4, html-css."
  else if has "unsupported file extension" then
    "Use a supported input type (json) or a Figma URL."
  else if has "file not found" then
    "Verify the file exists; use an absolute path or run from the working directory "
      ++ "(supported: json)."
  else "Check flags/paths (e.g., --framework, --rules) and required tokens."

namespace Fault

def message : Fault → String
  | .file cause => cause.message
  | .io message => message
  | .network message => message
  | .url cause => cause.message
  | .service _ cause => cause.message
  | .document cause => cause.message
  | .yaml => "the YAML text is not well formed"
  | .rules cause => cause.message
  | .asset cause => cause.message
  | .config cause => cause.message
  | .unknown message => message

def display (f : Fault) : String :=
  (match f with
    | .file _ | .io _ => "IO error: "
    | .network _ => "Network error: "
    | .url _ => "Invalid URL: "
    | .service status _ => "Figma API error (status: " ++ statusText status ++ "): "
    | .document _ => "Serialization error: "
    | .yaml => "YAML error: "
    | .rules _ => "Rule error: "
    | .asset _ => "Asset error: "
    | .config _ => "Configuration error: "
    | .unknown _ => "Unexpected error: ") ++ f.message

/-- the name of the kind of fault -/
def kind : Fault → String
  | .file _ | .io _ => "Io"
  | .network _ => "Network"
  | .url _ => "InvalidUrl"
  | .service _ _ => "FigmaApi"
  | .document _ => "Serialization"
  | .yaml => "Yaml"
  | .rules _ => "Rules"
  | .asset _ => "Asset"
  | .config _ => "Config"
  | .unknown _ => "Unknown"

def category : Fault → FaultCategory
  | .network _ => .network
  | .service _ _ => .figma
  | .yaml | .rules _ => .rules
  | .asset _ => .asset
  | .unknown _ => .unknown
  | _ => .config

def hint (f : Fault) : String :=
  match f with
  | .file _ | .io _ => "Check file paths/permissions."
  | .network _ => "Check connectivity/proxy/VPN and retry."
  | .url _ =>
    "Verify the Figma URL (e.g., https://www.figma.com/design/<FILE_KEY>/...?node-id=1-2)."
  | .service _ _ => "Check FIGMA_TOKEN/URL and rate limits; retry after waiting."
  | .document _ => "Check that the input is a Figma node, file or nodes response in JSON form."
  | .yaml => "Check the YAML rule file syntax (a list of rules or a `rules:` key)."
  | .rules _ =>
    "Each rule needs an `id`, a `selector` map and a `properties` map; "
      ++ "run with --verbose for details."
  | .asset _ => "Provide FIGMA_TOKEN for remote assets or pass --assets with pre-resolved URLs."
  | .config _ => configHint f.message
  | .unknown _ => "Re-run with --verbose; file an issue if persistent."

def notice (f : Fault) : Notice where
  category := f.category
  message := match f with
    | .service status cause =>
      "Figma API error (status " ++ statusText status ++ "): " ++ cause.message
    | _ => f.message
  remediation := some f.hint

end Fault
end Handoff
