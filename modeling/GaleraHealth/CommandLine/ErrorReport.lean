import GaleraHealth.Config.Agent
import GaleraHealth.Config.Loading
import GaleraHealth.DiskAgent.Filesystem
import GaleraHealth.Tls.Identity

/-!
# Reports of errors

A command that fails reports in what it failed, and below that the causes, the nearest first. A
single cause stands alone; several are numbered. Where the account of a reader ends the report, the
cause that introduces it is numbered like the first of several.
-/

namespace GaleraHealth

/-- What went wrong, and why. -/
structure ErrorReport where
  context : String
  causes : List String
  /-- Whether there are more causes, which are not told. -/
  isCut : Bool
  deriving DecidableEq, Repr

namespace ErrorReport

/-- A cause whose lines are indented. -/
def indented (start next : String) (cause : String) : String :=
  start ++ (("\n" ++ next).intercalate
    ((Text.pieces '\n' cause.toList).map String.ofList))

/-- A numbered cause. The number takes five places. -/
def numbered (n : Nat) (cause : String) : String :=
  let digits := Nat.toDigits 10 n
  let start := String.ofList (List.replicate (5 - digits.length) ' ' ++ digits) ++ ": "
  indented start "       " cause

/-- The causes, a line or more for each. -/
def causeLines (r : ErrorReport) : List String :=
  match r.causes, r.isCut with
  | [cause], false => [indented "    " "    " cause]
  | causes, _ => causes.mapIdx numbered

def text (r : ErrorReport) : String :=
  "Error: " ++ r.context ++
    (if r.causes.isEmpty then "" else "\n\nCaused by:\n" ++ "\n".intercalate r.causeLines)

/-- A report with one cause at most. -/
def ofCause (context : String) (cause : Option String) : ErrorReport :=
  ⟨context, cause.toList, false⟩

/-- A configuration file that cannot be read. -/
def unreadFile (path : String) (fault : Filesystem.FileFault) : List String :=
  ["failed to read config " ++ Text.quoted path ++ ": " ++ fault.message, fault.message]

/-- What a failure to load a configuration is reported under. -/
def loading (path : String) : String := "Failed to load config from " ++ path

/-- A report of a configuration file that cannot be read. -/
def ofFileFault (path : String) (fault : Filesystem.FileFault) : ErrorReport :=
  ⟨loading path, unreadFile path fault, false⟩

/-- A report of a cluster configuration that is not accepted. -/
def ofLoadFault (path : String) (fault : LoadFault) : ErrorReport :=
  match fault with
  | .unreadable => ⟨loading path, [fault.message], true⟩
  | .refused _ => ⟨loading path, [fault.message], false⟩

/-- A report of an agent's configuration that is not accepted. -/
def ofAgentFault (path : String) (fault : AgentConfigFault) : ErrorReport :=
  ⟨loading path, [fault.message], fault == .unreadable⟩

def ofIdentityFault (fault : Tls.IdentityFault) : ErrorReport :=
  ofCause fault.message fault.cause?

end ErrorReport

end GaleraHealth
