import GaleraHealth.CommandLine.Diagnose
import GaleraHealth.DiskAgent.Router
import GaleraHealth.Net.SocketAddress

/-!
# The command of the disk agent

The agent loads its configuration, notes its process number if it is told to, and listens until it
is interrupted. On the way it logs what it does. What goes wrong first ends it.
-/

namespace GaleraHealth

namespace Serve

/-- Where the configuration is looked for. -/
def defaultPath : String := "/var/vcap/jobs/mysql-diag-agent/config/mysql-diag-agent.yml"

def options : List OptionSpec := [configOption, logLevelOption]

/-- The text that help shows. -/
def usage : String :=
  "Serves disk usage of this node to mysql-diag\n\n" ++
    "Usage: mysql-diag-agent [-c <CONFIG>] [--log-level <LEVEL>]\n"

/-- What the agent does, with all that it has logged before. -/
abbrev Logged (α : Type) := List String × Except ErrorReport α

/-- Goes on after a step, unless it failed. -/
def Logged.andThen {α β : Type} (first : Logged α) (next : α → Logged β) : Logged β :=
  match first with
  | (log, .error r) => (log, .error r)
  | (log, .ok a) =>
    let (more, result) := next a
    (log ++ more, result)

/-- Logs a message. -/
def say (message : String) : Logged Unit := (["INFO " ++ message], .ok ())

/-- A step that logs nothing. -/
def quietly {α : Type} (step : Except ErrorReport α) : Logged α := ([], step)

def load (fs : Filesystem) (path : String) : Except ErrorReport AgentConfig :=
  match fs.read path with
  | .error f => .error (.ofFileFault path f)
  | .ok text => (AgentConfig.ofYaml text).mapError (.ofAgentFault path)

/-- The agent that a configuration describes. -/
def agent (c : AgentConfig) : DiskAgent := ⟨⟨c.username, c.password⟩, c.persistent, c.ephemeral⟩

/-- Writes the process number to the file that is named for it. -/
def writePid (fs : Filesystem) (c : AgentConfig) : Except ErrorReport Unit :=
  match c.pidFile with
  | none => .ok ()
  | some path => (fs.checkWritable path).mapError fun f =>
    .ofCause ("Failed to write pid file " ++ path) (some f.message)

def address (c : AgentConfig) : Except ErrorReport Net.SocketAddress :=
  match Net.SocketAddress.ofText? c.bind with
  | some a => .ok a
  | none =>
    .error (.ofCause ("Invalid bind address " ++ c.bind) (some "invalid socket address syntax"))

/-- The TLS identity to show, if there is to be one. -/
def identity (c : AgentConfig) : Except ErrorReport (Option Tls.Identity) :=
  if c.tls.enabled then
    ((Tls.Identity.load c.tls.certificate c.tls.privateKey).mapError .ofIdentityFault).map some
  else .ok none

/-- The name of the way in which the agent is spoken to. -/
def schemeName (identity : Option Tls.Identity) : String :=
  if identity.isSome then "https" else "http"

/-- All that the agent does, up to its interruption. -/
def life (fs : Filesystem) (path : String) : Logged Unit :=
  (say "Starting mysql-diag-agent").andThen fun _ =>
  (quietly (load fs path)).andThen fun c =>
  (quietly (writePid fs c)).andThen fun _ =>
  (say ("Serving persistent disk " ++ c.persistent ++ " and ephemeral disk " ++
    c.ephemeral)).andThen fun _ =>
  (quietly (address c)).andThen fun a =>
  (quietly (identity c)).andThen fun i =>
  (say ("Listening on " ++ schemeName i ++ "://" ++ a.text)).andThen fun _ =>
  say "mysql-diag-agent stopped"

/-- Runs the command: its log and its outcome. -/
def run (fs : Filesystem) (args : List String) : List String × Outcome :=
  match OptionSpec.read options [] args with
  | .error f => ([], f.outcome usage)
  | .ok values =>
    let (log, result) := life fs ((values.lookup "config").getD defaultPath)
    let shown := if logsInfo ((values.lookup "log-level").getD "info") then log else []
    match result with
    | .error r => (shown, r.outcome)
    | .ok () => (shown, ⟨0, "", none⟩)

end Serve

end GaleraHealth
