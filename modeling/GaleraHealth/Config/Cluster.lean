import GaleraHealth.Cluster.DiskRisk
import GaleraHealth.Cluster.Quorum
import GaleraHealth.Duration

/-!
# The configuration of a cluster

Everything that one diagnostic run needs to know: the database nodes and how to log in to them, the
agents beside them, and how their answers are judged.
-/

namespace GaleraHealth

/-- Whether and how an agent is asked over TLS. -/
structure TlsSettings where
  enabled : Bool
  /-- The PEM text of the certificates that are trusted. -/
  ca : String
  /-- The name that the agent's certificate is checked against, if not its host. -/
  serverName : Option String
  deriving DecidableEq, Repr

/-- Without TLS. -/
def TlsSettings.off : TlsSettings := ⟨false, "", none⟩

/-- How the agents of one kind are asked, one beside every node. -/
structure AgentSettings where
  username : String
  password : String
  port : UInt16
  tls : TlsSettings
  deriving DecidableEq, Repr

/-- How the replication canary is asked. -/
structure CanarySettings where
  username : String
  password : String
  port : UInt16
  host : String
  deriving DecidableEq, Repr

/-- Limits in seconds. -/
structure Timeouts where
  connectSecs : UInt64
  querySecs : UInt64
  agentSecs : UInt64
  diskAgentSecs : UInt64
  runSecs : UInt64
  deriving DecidableEq, Repr

namespace Timeouts

/-- The limits of a configuration that names none. -/
def standard : Timeouts := ⟨10, 10, 30, 10, 60⟩

def connect (t : Timeouts) : Duration := .ofSeconds t.connectSecs

def query (t : Timeouts) : Duration := .ofSeconds t.querySecs

def nodeStatus (t : Timeouts) : Duration := t.connect.add t.query

def agent (t : Timeouts) : Duration := .ofSeconds t.agentSecs

def diskAgent (t : Timeouts) : Duration := .ofSeconds t.diskAgentSecs

def run (t : Timeouts) : Duration := .ofSeconds t.runSecs

/-- The limits in the order of the steps they apply to. -/
def durations (t : Timeouts) : List Duration :=
  [t.connect, t.query, t.nodeStatus, t.agent, t.diskAgent, t.run]

end Timeouts

/-- The names of the policies; the size that one of them takes stands beside it. -/
inductive PolicyName where
  | primaryComponent
  | majority
  | minClusterSize
  deriving DecidableEq, Repr

/-- How the health of a node is judged. -/
structure QuorumSettings where
  policy : PolicyName
  minClusterSize : Option UInt32
  requireWritable : Bool
  deriving DecidableEq, Repr

namespace QuorumSettings

/-- The settings of a configuration that names none. -/
def standard : QuorumSettings := ⟨.primaryComponent, none, true⟩

/-- The policy, unless it asks for a size and none above zero is given. -/
def policy? (q : QuorumSettings) : Option Policy :=
  match q.policy with
  | .primaryComponent => some .primaryComponent
  | .majority => some .majority
  | .minClusterSize =>
    (q.minClusterSize.filter fun n => 1 ≤ n).map .minClusterSize

def quorum? (q : QuorumSettings) : Option Quorum :=
  q.policy?.map fun p => ⟨p, q.requireWritable⟩

end QuorumSettings

/-- The database nodes. -/
structure DatabaseSettings where
  username : String
  password : String
  /-- The port of every node that has none of its own. -/
  port : UInt16
  /-- The disk agents; without them disks are not checked. -/
  agent : Option AgentSettings
  thresholds : Thresholds
  nodes : List Node

/-- The configuration of a cluster. -/
structure ClusterConfig where
  database : DatabaseSettings
  galeraAgent : Option AgentSettings
  canary : Option CanarySettings
  timeouts : Timeouts
  quorum : QuorumSettings

def ClusterConfig.nodes (c : ClusterConfig) : List Node := c.database.nodes

def DatabaseSettings.portOf (d : DatabaseSettings) (n : Node) : UInt16 :=
  n.port.getD d.port

end GaleraHealth
