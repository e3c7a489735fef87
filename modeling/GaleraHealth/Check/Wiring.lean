import GaleraHealth.Agent.Clients
import GaleraHealth.Check.Run
import GaleraHealth.Database.Probe

/-!
# Runs against peers

A configuration names databases and agents, and their behaviour decides how every check goes. A run
against peers is a run with the sources that the configuration and the peers make together. The
workers of a run need not all meet the same: each may have peers of its own, and be slow, get stuck
or crash whatever its peers do.
-/

namespace GaleraHealth

/-- How everybody behaves that a configuration may name. -/
structure Peers extends Surroundings where
  /-- The database on a port of a host. -/
  database : String → UInt16 → DatabaseServer

def Peers.databaseOf (p : Peers) (c : ClusterConfig) (n : Node) : DatabaseServer :=
  p.database n.host (c.database.portOf n)

variable [Net.NameTable]

/-- The sources that a configuration and its peers make. -/
def ClusterConfig.sources (c : ClusterConfig) (p : Peers) : Sources where
  status n := (p.databaseOf c n).probe c.timeouts p.link
  seqno := c.galeraAgent.map fun a n =>
    (a.askSeqno c.timeouts.agent p.toSurroundings n.host).map .answered
  disk := c.database.agent.map fun a n =>
    (a.askDisks c.timeouts.diskAgent p.toSurroundings n.host).map .answered
  canary := c.canary.map fun s => s.askHealth CanarySettings.limit p.toSurroundings

/-- A run of a checked configuration against peers. -/
def CheckedConfig.diagnose (c : CheckedConfig) (p : Peers) (outside : Option Nat)
    (takenAt : String) : Run :=
  c.run (c.config.sources p) outside takenAt

/-- The endpoints at which a run has asked. -/
def CheckedConfig.endpointsAsked (c : CheckedConfig) (w : Surroundings) (asked : Asked) :
    List (Except EndpointFault Endpoint) :=
  let agents (a : Option AgentSettings) (ns : Option (List Node))
      (at_ : AgentSettings → Surroundings → String → Except EndpointFault Endpoint) :=
    match a, ns with
    | some a, some ns => ns.map fun n => at_ a w n.host
    | _, _ => []
  agents c.config.galeraAgent asked.seqno AgentSettings.seqnoEndpoint ++
    agents c.config.database.agent asked.disk AgentSettings.diskEndpoint ++
    (c.config.canary.map (CanarySettings.endpoint · w)).toList

/-- The requests that the agents get first. Over a link that is down there are none. -/
def CheckedConfig.requests (c : CheckedConfig) (w : Surroundings) (id : RequestId) (asked : Asked) :
    List Request :=
  match w.link with
  | .down => []
  | .up => (c.endpointsAsked w asked).filterMap fun e => e.toOption.map (·.request id)

/-! ### Workers that meet their own -/

/-- What befalls a worker that its peers have no part in. -/
inductive Mishap where
  | delay (ticks : Nat)
  /-- It never comes to an end. -/
  | stuck
  | crash (ticks : Nat) (message : String)

/-- The course of a worker with a mishap. -/
def Course.befallen {α : Type} (course : Course (Ending α)) : Mishap → Course (Ending α)
  | .stuck => .never
  | .crash ticks message => .after ticks (.crashed message)
  | .delay ticks =>
    match course with
    | .never => .never
    | .after n e => .after (ticks + n) e

/-- What the workers of a run meet: each of every phase its own peers and its own mishap, and the
canary's check its own peers. -/
structure Circumstances where
  peers : Phase → Node → Peers
  mishap : Phase → Node → Mishap
  canary : Peers

/-- Circumstances in which all workers meet the same peers, and nothing else befalls them. -/
def Circumstances.calm (p : Peers) : Circumstances := ⟨fun _ _ => p, fun _ _ => .delay 0, p⟩

/-- The sources that a configuration makes in some circumstances. -/
def ClusterConfig.sourcesIn (c : ClusterConfig) (w : Circumstances) : Sources where
  status n := ((c.sources (w.peers .status n)).status n).befallen (w.mishap .status n)
  seqno := c.galeraAgent.map fun a n =>
    ((a.askSeqno c.timeouts.agent (w.peers .seqno n).toSurroundings n.host).map
      .answered).befallen (w.mishap .seqno n)
  disk := c.database.agent.map fun a n =>
    ((a.askDisks c.timeouts.diskAgent (w.peers .disk n).toSurroundings n.host).map
      .answered).befallen (w.mishap .disk n)
  canary := (c.sources w.canary).canary

end GaleraHealth
