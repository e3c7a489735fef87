import GaleraHealth.Config.Cluster
import GaleraHealth.Decimal.Shortest
import GaleraHealth.Tls.Pem

/-!
# Which configurations are accepted

A configuration is checked in a fixed order, and the first fault is reported: nodes, thresholds,
timeouts, quorum, TLS.
-/

namespace GaleraHealth

/-- What is wrong with the TLS settings of an agent. -/
inductive TlsFault where
  | badCa (fault : Pem.Fault)
  | noCa
  deriving DecidableEq, Repr

def TlsFault.message : TlsFault → String
  | .badCa f => "failed to parse ca: " ++ f.message
  | .noCa => "tls is enabled but no ca certificate was found"

/-- What is wrong with a configuration. -/
inductive ConfigFault where
  | noNodes
  /-- Two nodes have one identity, or one host and port. -/
  | duplicateNode (shown : String)
  /-- A threshold is no fraction. -/
  | invalidThreshold (field : String) (value : Float)
  /-- A timeout is zero or longer than a day. -/
  | invalidTimeout (field : String)
  /-- A policy lacks the size it asks for. -/
  | invalidQuorum
  | invalidTls (part : String) (fault : TlsFault)

namespace ConfigFault

def message : ConfigFault → String
  | .noNodes => "no mysql nodes configured"
  | .duplicateNode shown => "duplicate node in config: " ++ shown
  | .invalidThreshold field value =>
    field ++ " must be within 0..=1, got " ++ Decimal.plain.floatText value
  | .invalidTimeout field => "timeout " ++ field ++ " must be between 1 and 86400 seconds"
  | .invalidQuorum => "quorum policy min_cluster_size requires a value of at least 1"
  | .invalidTls part fault => "invalid tls config for " ++ part ++ ": " ++ fault.message

end ConfigFault

/-- The longest timeout: a day, in seconds. -/
def maxTimeoutSecs : UInt64 := 86400

/-- Where a node's database is, as text. -/
def DatabaseSettings.endpoint (d : DatabaseSettings) (n : Node) : String :=
  n.host ++ ":" ++ Decimal.natText (d.portOf n).toNat

/-- No node may have the identity or the database of an earlier one. -/
def DatabaseSettings.checkNodes (d : DatabaseSettings) :
    List String → List String → List Node → Except ConfigFault Unit
  | _, _, [] => .ok ()
  | identities, endpoints, n :: rest =>
    if n.identity ∈ identities then .error (.duplicateNode n.identity)
    else if d.endpoint n ∈ endpoints then .error (.duplicateNode (d.endpoint n))
    else d.checkNodes (n.identity :: identities) (d.endpoint n :: endpoints) rest

/-- A threshold lies between zero and one. -/
def checkFraction (field : String) (value : Float) : Except ConfigFault Unit :=
  if 0.0 ≤ value && value ≤ 1.0 then .ok () else .error (.invalidThreshold field value)

/-- A timeout lies between a second and a day. -/
def checkTimeout (field : String) (secs : UInt64) : Except ConfigFault Unit :=
  if secs = 0 ∨ maxTimeoutSecs < secs then .error (.invalidTimeout field) else .ok ()

/-- With TLS there is a certificate to trust. -/
def TlsSettings.check (t : TlsSettings) : Except TlsFault Unit :=
  if !t.enabled then .ok ()
  else
    match Pem.certificates t.ca with
    | .error f => .error (.badCa f)
    | .ok [] => .error .noCa
    | .ok _ => .ok ()

/-- The TLS settings of agents, if there are any. -/
def checkAgent (part : String) (a : Option AgentSettings) : Except ConfigFault Unit :=
  match a with
  | none => .ok ()
  | some a => a.tls.check.mapError (.invalidTls part)

/-- Whether a configuration is accepted, and its first fault if it is not. -/
def ClusterConfig.validate (c : ClusterConfig) : Except ConfigFault Unit := do
  if c.nodes.isEmpty then throw .noNodes
  c.database.checkNodes [] [] c.nodes
  checkFraction "disk_used_warning_fraction" c.database.thresholds.bytes
  checkFraction "disk_inodes_used_warning_fraction" c.database.thresholds.inodes
  checkTimeout "connect_secs" c.timeouts.connectSecs
  checkTimeout "query_secs" c.timeouts.querySecs
  checkTimeout "agent_secs" c.timeouts.agentSecs
  checkTimeout "disk_agent_secs" c.timeouts.diskAgentSecs
  checkTimeout "run_secs" c.timeouts.runSecs
  if c.quorum.policy?.isNone then throw .invalidQuorum
  checkAgent "mysql.agent" c.database.agent
  checkAgent "galera_agent" c.galeraAgent

/-- A configuration that has been checked, with the quorum it describes. -/
structure CheckedConfig where
  config : ClusterConfig
  quorum : Quorum

def ClusterConfig.checked (c : ClusterConfig) : Except ConfigFault CheckedConfig := do
  c.validate
  match c.quorum.quorum? with
  | some q => return ⟨c, q⟩
  | none => throw .invalidQuorum

end GaleraHealth
