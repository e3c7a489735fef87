import GaleraHealth.Check.Wiring
import GaleraHealth.CommandLine.ErrorReport
import GaleraHealth.CommandLine.Options
import GaleraHealth.Json.Writer
import GaleraHealth.Summary.Basic

/-!
# The diagnosing command

The command loads a configuration, makes one run, and prints the snapshot, in JSON or as a summary.
It succeeds whatever the verdict is.
-/

namespace GaleraHealth

/-- What a command has done when it is over. -/
structure Outcome where
  exit : UInt8
  output : String
  /-- The report of what went wrong, if the command itself has something to report. -/
  error : Option String
  deriving DecidableEq, Repr

/-- The outcome of a command line that is not understood. -/
def UsageFault.outcome (usage : String) : UsageFault → Outcome
  | .help => ⟨0, usage, none⟩
  | _ => ⟨2, "", none⟩

def ErrorReport.outcome (r : ErrorReport) : Outcome := ⟨1, "", some r.text⟩

namespace Diagnose

/-- Where the configuration is looked for. -/
def defaultPath : String := "/var/vcap/jobs/mysql-diag/config/mysql-diag-config.yml"

def formats : List String := ["json", "summary"]

def options : List OptionSpec :=
  [configOption, logLevelOption, ⟨"format", none, fun v => formats.contains v⟩]

/-- The text that help shows. -/
def usage : String :=
  "Diagnose the health of a Galera MySQL cluster\n\n" ++
    "Usage: mysql-diag [-c <CONFIG>] [--log-level <LEVEL>] [--format json|summary]\n"

def output (format : String) (s : Snapshot) : String :=
  if format = "summary" then Summary.render s else s.toJson.pretty 0 ++ "\n"

def load (fs : Filesystem) (path : String) : Except ErrorReport CheckedConfig :=
  match fs.read path with
  | .error f => .error (.ofFileFault path f)
  | .ok text => (CheckedConfig.ofYaml text).mapError (.ofLoadFault path)

/-- Runs the command. -/
def run [Net.NameTable] (fs : Filesystem) (peers : Peers) (takenAt : String)
    (args : List String) : Outcome :=
  match OptionSpec.read options [] args with
  | .error f => f.outcome usage
  | .ok values =>
    match load fs ((values.lookup "config").getD defaultPath) with
    | .error r => r.outcome
    | .ok c =>
      let format := (values.lookup "format").getD "json"
      ⟨0, output format (c.diagnose peers none takenAt).snapshot, none⟩

end Diagnose

end GaleraHealth
