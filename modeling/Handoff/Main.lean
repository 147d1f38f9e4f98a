import Handoff.Command.Run
import Handoff.Moment
import Std.Time.DateTime.Timestamp

/-!
# The command line

The files that the arguments name are looked at, the command is run on them, and what it changed is
written back.
-/

open Handoff

/-- the code with which a directory refuses to be read -/
def isDirectoryCode : UInt32 := 21

/-- adds what stands at a path -/
def look (files : Files) (path : String) : IO Files := do
  try
    return files.add path (.file (← IO.FS.readFile path))
  catch
    | .inappropriateType _ code _ =>
      return if code = isDirectoryCode then files.add path .directory else files
    | _ => return files

/-- adds what stands at the paths of a run and on the way to them -/
def surroundings (i : Invocation) : IO Surroundings := do
  let home ← IO.getEnv "HOME"
  let home := home.filter (· ≠ "")
  let files ← ((i.paths home).flatMap Path.leading).foldlM look ∅
  let now ← Std.Time.Timestamp.now
  return {
    files
    home
    time := Moment.text now.toSecondsSinceUnixEpoch.val.toNat
    isTerminal := ← (← IO.getStdout).isTty }

def writeBack (before after : Files) : IO Unit :=
  (Files.changed before after).forM fun (path, content) => do
    let directory := Path.directory path
    if directory ≠ "" then IO.FS.createDirAll directory
    IO.FS.writeFile path content

def main (args : List String) : IO UInt32 := do
  match Invocation.ofArguments args with
  | .error usage =>
    if usage.exitCode = 0 then IO.print usage.text else IO.eprint usage.text
    return usage.exitCode.toUInt32
  | .ok invocation =>
    let s ← surroundings invocation
    let outcome := invocation.run s
    writeBack s.files outcome.files
    IO.print outcome.printed
    return outcome.exitCode.toUInt32
