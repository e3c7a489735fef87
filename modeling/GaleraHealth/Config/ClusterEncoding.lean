import GaleraHealth.Cluster.Encoding
import GaleraHealth.Config.Cluster

/-!
# The written form of a cluster configuration

Each part is read from any form of document, with its defaults filled in, and written as JSON.
-/

namespace GaleraHealth

section Reading

variable {ν : Type} (f : Form ν)

/-- Reads how an agent is spoken to; without fields it is in the clear. -/
def TlsSettings.read? (d : ν) : Option TlsSettings := do
  let fs ← f.record? ["enabled", "ca", "server_name"] 0 d
  let enabled ← defaulted? fs "enabled" false f.bool?
  let ca ← defaulted? fs "ca" "" f.string?
  let serverName ← omittable? f fs "server_name" f.string?
  return ⟨enabled, ca, serverName⟩

/-- Agents of different kinds name their port differently. -/
def AgentSettings.read? (portName : String) (d : ν) : Option AgentSettings := do
  let fs ← f.record? ["username", "password", portName, "tls"] 3 d
  let username ← required? fs "username" f.string?
  let password ← required? fs "password" f.string?
  let port ← required? fs portName f.word16?
  let tls ← defaulted? fs "tls" TlsSettings.off (TlsSettings.read? f)
  return ⟨username, password, port, tls⟩

def CanarySettings.read? (d : ν) : Option CanarySettings := do
  let fs ← f.record? ["username", "password", "api_port", "host"] 3 d
  let username ← required? fs "username" f.string?
  let password ← required? fs "password" f.string?
  let port ← required? fs "api_port" f.word16?
  let host ← defaulted? fs "host" "127.0.0.1" f.string?
  return ⟨username, password, port, host⟩

def Timeouts.read? (d : ν) : Option Timeouts := do
  let fs ← f.record? ["connect_secs", "query_secs", "agent_secs", "disk_agent_secs",
    "run_secs"] 0 d
  let connectSecs ← defaulted? fs "connect_secs" standard.connectSecs f.word64?
  let querySecs ← defaulted? fs "query_secs" standard.querySecs f.word64?
  let agentSecs ← defaulted? fs "agent_secs" standard.agentSecs f.word64?
  let diskAgentSecs ← defaulted? fs "disk_agent_secs" standard.diskAgentSecs f.word64?
  let runSecs ← defaulted? fs "run_secs" standard.runSecs f.word64?
  return ⟨connectSecs, querySecs, agentSecs, diskAgentSecs, runSecs⟩

def PolicyName.names : List (String × PolicyName) :=
  [("primary_component", .primaryComponent), ("majority", .majority),
    ("min_cluster_size", .minClusterSize)]

def QuorumSettings.read? (d : ν) : Option QuorumSettings := do
  let fs ← f.record? ["policy", "min_cluster_size", "require_writable"] 0 d
  let policy ← defaulted? fs "policy" PolicyName.primaryComponent (f.choice? PolicyName.names)
  let minClusterSize ← omittable? f fs "min_cluster_size" f.word32?
  let requireWritable ← defaulted? fs "require_writable" true f.bool?
  return ⟨policy, minClusterSize, requireWritable⟩

def Thresholds.read? (d : ν) : Option Thresholds := do
  let fs ← f.record? ["disk_used_warning_fraction", "disk_inodes_used_warning_fraction"] 0 d
  let bytes ← defaulted? fs "disk_used_warning_fraction" standard.bytes f.float?
  let inodes ← defaulted? fs "disk_inodes_used_warning_fraction" standard.inodes f.float?
  return ⟨bytes, inodes⟩

def DatabaseSettings.read? (d : ν) : Option DatabaseSettings := do
  let fs ← f.record? ["username", "password", "port", "agent", "threshold", "nodes"] 2 d
  let username ← required? fs "username" f.string?
  let password ← required? fs "password" f.string?
  let port ← defaulted? fs "port" 3306 f.word16?
  let agent ← omittable? f fs "agent" (AgentSettings.read? f "port")
  let thresholds ← defaulted? fs "threshold" Thresholds.standard (Thresholds.read? f)
  let nodes ← defaulted? fs "nodes" [] (f.list? (Node.read? f))
  return ⟨username, password, port, agent, thresholds, nodes⟩

def ClusterConfig.read? (d : ν) : Option ClusterConfig := do
  let fs ← f.record? ["mysql", "galera_agent", "canary", "timeouts", "quorum"] 1 d
  let database ← required? fs "mysql" (DatabaseSettings.read? f)
  let galeraAgent ← omittable? f fs "galera_agent" (AgentSettings.read? f "api_port")
  let canary ← omittable? f fs "canary" (CanarySettings.read? f)
  let timeouts ← defaulted? fs "timeouts" Timeouts.standard (Timeouts.read? f)
  let quorum ← defaulted? fs "quorum" QuorumSettings.standard (QuorumSettings.read? f)
  return ⟨database, galeraAgent, canary, timeouts, quorum⟩

end Reading

section Writing

/-- The record of how an agent is spoken to. -/
def TlsSettings.toJson (t : TlsSettings) : Json :=
  .object [("enabled", .bool t.enabled), ("ca", .string t.ca),
    ("server_name", .ofOption .string t.serverName)]

/-- The record of an agent, with the name that its port goes by. -/
def AgentSettings.toJson (portName : String) (a : AgentSettings) : Json :=
  .object [("username", .string a.username), ("password", .string a.password),
    (portName, .ofNat a.port.toNat), ("tls", a.tls.toJson)]

def CanarySettings.toJson (c : CanarySettings) : Json :=
  .object [("username", .string c.username), ("password", .string c.password),
    ("api_port", .ofNat c.port.toNat), ("host", .string c.host)]

def Timeouts.toJson (t : Timeouts) : Json :=
  .object [("connect_secs", .ofNat t.connectSecs.toNat), ("query_secs", .ofNat t.querySecs.toNat),
    ("agent_secs", .ofNat t.agentSecs.toNat),
    ("disk_agent_secs", .ofNat t.diskAgentSecs.toNat), ("run_secs", .ofNat t.runSecs.toNat)]

def PolicyName.name : PolicyName → String
  | .primaryComponent => "primary_component"
  | .majority => "majority"
  | .minClusterSize => "min_cluster_size"

theorem PolicyName.lookup_name (p : PolicyName) : names.lookup p.name = some p := by
  cases p <;> rfl

def QuorumSettings.toJson (q : QuorumSettings) : Json :=
  .object [("policy", .string q.policy.name),
    ("min_cluster_size", .ofOption (fun n => .ofNat n.toNat) q.minClusterSize),
    ("require_writable", .bool q.requireWritable)]

def Thresholds.toJson (t : Thresholds) : Json :=
  .object [("disk_used_warning_fraction", .ofFloat t.bytes),
    ("disk_inodes_used_warning_fraction", .ofFloat t.inodes)]

def DatabaseSettings.toJson (d : DatabaseSettings) : Json :=
  .object [("username", .string d.username), ("password", .string d.password),
    ("port", .ofNat d.port.toNat), ("agent", .ofOption (AgentSettings.toJson "port") d.agent),
    ("threshold", d.thresholds.toJson), ("nodes", .ofList Node.toJson d.nodes)]

def ClusterConfig.toJson (c : ClusterConfig) : Json :=
  .object [("mysql", c.database.toJson),
    ("galera_agent", .ofOption (AgentSettings.toJson "api_port") c.galeraAgent),
    ("canary", .ofOption CanarySettings.toJson c.canary), ("timeouts", c.timeouts.toJson),
    ("quorum", c.quorum.toJson)]

/-- A policy as it is shown to people. -/
def Policy.label : Policy → String
  | .primaryComponent => "PrimaryComponent"
  | .majority => "Majority"
  | .minClusterSize n => "MinClusterSize(" ++ Decimal.natText n.toNat ++ ")"

end Writing

end GaleraHealth
