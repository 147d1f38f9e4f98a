import Handoff.Dict
import Handoff.Fault

/-!
# Files and directories

`Files` holds what is known of a tree of files around a working directory.  A path is followed name
by name, and each name before the last has to be that of a directory.

* `Files.read`                what a file holds;
* `Files.write`               puts a file into a directory that is there;
* `Files.makeDirectories`     puts a directory there, with all that lead to it;
* `Path.extension`            the part of a name after its last full stop.
-/

namespace Handoff

inductive FileEntry where
  | file (content : String)
  | directory
deriving DecidableEq, Repr, Inhabited

/-! ## paths -/

/-- the names from the working directory to a place, the nearest one first; an empty name stands for
the root -/
abbrev Place := List String

namespace Place

def text (p : Place) : String := Text.joinWith "/" p.reverse

def parent : Place → Place
  | [""] => [""]
  | [] => [".."]
  | ".." :: p => ".." :: ".." :: p
  | _ :: p => p

/-- whether a place is a directory without any knowledge of the files -/
def isFixed (p : Place) : Bool := p.all fun name => name == ".." || name == ""

end Place

namespace Path

def parts (path : String) : List String := Text.splitOn '/' path

/-- the last name of a path, if it is a name -/
def fileName? (path : String) : Option String :=
  match ((parts path).filter fun p => p ≠ "" && p ≠ ".").getLast? with
  | some ".." => none
  | name => name

/-- the part after the last full stop, unless the name starts there -/
def extension (path : String) : String :=
  match (fileName? path).bind (Text.cutLast? '.') with
  | some (stem, extension) => if stem = "" then "" else extension
  | none => ""

def join (directory name : String) : String :=
  if directory = "" || Text.endsWith "/" directory then directory ++ name
  else directory ++ "/" ++ name

/-- the directory that a name was joined to, and all names before its last -/
def directory (path : String) : String :=
  match Text.cutLast? '/' path with
  | some (directory, _) => directory
  | none => ""

/-- the paths of the directories that lead to a place, and the path itself -/
def leading (path : String) : List String :=
  let names := parts path
  ((List.range names.length).map fun n => Text.joinWith "/" (names.take (n + 1))).filter (· ≠ "")

/-- how many bytes a name may have -/
def maxName : Nat := 255

/-- how many bytes a path may have -/
def maxPath : Nat := 4095

def isLongName (name : String) : Bool := maxName < name.utf8ByteSize

def isLong (path : String) : Bool := maxPath < path.utf8ByteSize

end Path

/-! ## files -/

structure Files where
  entries : Dict FileEntry := ∅
deriving Inhabited

namespace Files

instance : EmptyCollection Files := ⟨{}⟩

def entry? (fs : Files) (p : Place) : Option FileEntry :=
  if p.isFixed then some .directory else fs.entries.get? p.text

def put (fs : Files) (p : Place) (e : FileEntry) : Files := ⟨fs.entries.set p.text e⟩

/-- follows names from a place -/
def follow (fs : Files) : Place → List String → Except FileFault Place
  | p, [] => .ok p
  | p, name :: names =>
    match fs.entry? p with
    | none => .error .missing
    | some (.file _) => .error .notADirectory
    | some .directory =>
      if name = "" || name = "." then follow fs p names
      else if name = ".." then follow fs p.parent names
      else if Path.isLongName name then .error .nameTooLong
      else follow fs (name :: p) names

/-- where a path starts, and the names to follow -/
def start (path : String) : Place × List String :=
  match Path.parts path with
  | "" :: names => ([""], names)
  | names => ([], names)

/-- the place that a path leads to; the empty path leads nowhere -/
def find (fs : Files) (path : String) : Except FileFault Place :=
  if path = "" then .error .missing
  else if Path.isLong path then .error .nameTooLong
  else fs.follow (start path).1 (start path).2

def isFile (fs : Files) (path : String) : Bool :=
  match (fs.find path).map fs.entry? with
  | .ok (some (.file _)) => true
  | _ => false

def read (fs : Files) (path : String) : Except FileFault String := do
  match fs.entry? (← fs.find path) with
  | some (.file content) => return content
  | some .directory => throw .isADirectory
  | none => throw .missing

/-- a path that ends in a slash is that of a directory, whether it is there or not -/
def write (fs : Files) (path content : String) : Except FileFault Files := do
  if Text.endsWith "/" path then
    let _ ← fs.find (Path.join (Path.directory (Text.trimEndBy (· == '/') path)) ".")
    throw .isADirectory
  let p ← fs.find path
  match fs.entry? p with
  | some .directory => throw .isADirectory
  | _ => return fs.put p (.file content)

/-- names that lead nowhere else, one of which is a dot -/
def isDotted (names : List String) : Bool :=
  names.contains "." && names.all fun name => name = "" || name = "."

/-- follows names, and makes the directories that are not there; one that is named by a dot has to
be there -/
def makeAll (fs : Files) : Place → List String → Except FileFault Files
  | _, [] => .ok fs
  | p, name :: names =>
    if name = "" || name = "." then makeAll fs p names
    else if name = ".." then makeAll fs p.parent names
    else
      let q := name :: p
      match fs.entry? q with
      | some .directory => makeAll fs q names
      | some (.file _) => .error (if names.all (· = "") then .exists else .notADirectory)
      | none =>
        if Path.isLongName name then .error .nameTooLong
        else if isDotted names then .error .missing
        else makeAll (fs.put q .directory) q names

def makeDirectories (fs : Files) (path : String) : Except FileFault Files :=
  if Path.isLong path then .error .nameTooLong
  else fs.makeAll (start path).1 (start path).2

/-- puts an entry at a path, with the directories that lead to it -/
def add (fs : Files) (path : String) (e : FileEntry) : Files :=
  match fs.makeDirectories (Path.directory path) with
  | .ok fs => match fs.find path with
    | .ok p => fs.put p e
    | .error _ => fs
  | .error _ => fs

/-- the files that differ from those before, with their contents -/
def changed (before after : Files) : List (String × String) :=
  after.entries.entries.filterMap fun e =>
    match e.2 with
    | .file content =>
      if before.entries.get? e.1 = some (.file content) then none else some (e.1, content)
    | .directory => none

end Files
end Handoff
