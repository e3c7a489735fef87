import GaleraHealth.CommandLine.Serve
import GaleraHealth.Net.Letters

/-!
# The program

The first argument names the command, `diagnose` or `agent`, and the others are its options. The
configuration is read from standard input and stands for the file at whatever path the options
name; the time of a snapshot comes from the environment. The program itself opens no connections, so
every check is made over a link that is down.
-/

namespace GaleraHealth

/-- A tree in which one path leads to a file and every other one to a directory. -/
def Filesystem.ofFile (path text : String) : Filesystem :=
  let folders : Filesystem :=
    { entry := fun _ => some .directory
      content := fun _ => text
      workingDirectory := []
      volume := fun _ => ⟨0, 0, 0, 0, 0⟩ }
  match folders.resolve path with
  | .ok place =>
    { folders with entry := fun p => some (if p = place then .file else .directory) }
  | .error _ => folders

def configPath (options : List OptionSpec) (standard : String) (args : List String) : String :=
  match OptionSpec.read options [] args with
  | .ok values => (values.lookup "config").getD standard
  | .error _ => standard

def Peers.unreachable : Peers := ⟨.unreachable, fun _ _ => .closed⟩

local instance : Net.NameTable := .letters

/-- The log and the outcome of a command. -/
def runCommand (takenAt text : String) : List String → List String × Outcome
  | "diagnose" :: args =>
    let fs := Filesystem.ofFile (configPath Diagnose.options Diagnose.defaultPath args) text
    ([], Diagnose.run fs .unreachable takenAt args)
  | "agent" :: args =>
    let fs := Filesystem.ofFile (configPath Serve.options Serve.defaultPath args) text
    Serve.run fs args
  | _ => ([], ⟨2, "", some (Diagnose.usage ++ Serve.usage)⟩)

end GaleraHealth

/-- Everything that a stream still holds. -/
partial def readAll (input : IO.FS.Stream) (soFar : String) : IO String := do
  let line ← input.getLine
  if line.isEmpty then return soFar else readAll input (soFar ++ line)

/-- Runs the command that the arguments name. -/
def main (args : List String) : IO UInt32 := do
  let text ← readAll (← IO.getStdin) ""
  let takenAt := (← IO.getEnv "SNAPSHOT_TIME").getD ""
  let (log, outcome) := GaleraHealth.runCommand takenAt text args
  for line in log do IO.println line
  IO.print outcome.output
  if let some report := outcome.error then IO.eprintln report
  return outcome.exit.toUInt32
