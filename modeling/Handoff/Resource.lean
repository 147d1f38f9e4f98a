import Handoff.Files
import Handoff.Url.Basic

/-!
# Where a design comes from

An input is the path of a local file or the address of a design that is kept by a service.  An
address names the file of the design and perhaps a node of it.
-/

namespace Handoff

inductive Resource where
  | file (path : String)
  | design (url fileKey : String) (nodeId : Option String)
deriving DecidableEq, Repr

namespace Resource

/-- the input as it was given -/
def value : Resource → String
  | .file path => path
  | .design url _ _ => url

inductive Kind where
  | file
  | figma
deriving DecidableEq, Repr

def Kind.name : Kind → String
  | .file => "file"
  | .figma => "figma"

def kind : Resource → Kind
  | .file _ => .file
  | .design _ _ _ => .figma

def isAddress (value : String) : Bool :=
  Text.startsWith "http://" value || Text.startsWith "https://" value

/-- the segment after the first one that announces a file -/
def fileKey? : List String → Option String
  | [] => none
  | s :: rest =>
    if ["file", "design", "proto"].contains s then rest.head?.filter (· ≠ "") else fileKey? rest

/-- ids are written with a hyphen in addresses -/
def nodeId? (u : Url) : Option String := (u.pairs.lookup "node-id").map (Text.replaceChar '-' ":")

def ofAddress (value : String) : Except ResourceFault Resource :=
  match Url.parse value with
  | .error cause => .error (.invalidUrl value cause)
  | .ok u =>
    if Text.contains "figma.com" ((u.host.map Host.name).getD "") then
      match fileKey? u.segments with
      | some key => .ok (.design value key (nodeId? u))
      | none => .error (.missingFileKey value)
    else .error (.notFigma value)

def ofPath (files : Files) (value : String) : Except ResourceFault Resource :=
  let extension := Text.lowercase (Path.extension value)
  if !inputExtensions.contains extension then .error (.unsupportedExtension extension)
  else if files.isFile value then .ok (.file value) else .error (.fileNotFound value)

def locate (files : Files) (value : String) : Except ResourceFault Resource :=
  if isAddress value then ofAddress value else ofPath files value

end Resource
end Handoff
