import GaleraHealth.Check.Collect
import GaleraHealth.Cluster.Snapshot
import GaleraHealth.Config.Validation

/-!
# Diagnostic runs

A run checks the live status of every node, then asks the galera agents of those that are not live.
Beside that it asks the disk agents and the canary. When the run takes too long or is cancelled from
outside, everything that is still at work stops, and nothing is begun any more. The snapshot is
then made of what there is.
-/

namespace GaleraHealth

/-- Everything that a run may ask, by the way it is going to answer. -/
structure Sources where
  status : Node → Course (Ending NodeStatus)
  /-- The galera agents, if there are any. -/
  seqno : Option (Node → Course (Ending Int64))
  /-- The disk agents, if there are any. -/
  disk : Option (Node → Course (Ending DiskPair))
  canary : Option (Course (Except Failure Bool))

/-- What a phase yields, when it is over, and which nodes were asked in it. -/
structure PhaseResult (α : Type) where
  reports : List α
  endsAt : Nat
  asked : List Node

def askedNodes {α : Type} (nodes : List Node) (workers : List (Worker α)) : List Node :=
  ((nodes.zip workers).filter fun (_, w) => w.asked).map Prod.fst

def checkStatuses (source : Node → Course (Ending NodeStatus)) (limit : Duration)
    (cancel : Option Nat) (start : Nat) (nodes : List Node) : PhaseResult NodeReport :=
  let workers := fanOut limit cancel start (nodes.map source)
  ⟨statusReports nodes (slots .status limit workers), lastEnd start workers,
    askedNodes nodes workers⟩

/-- Asks the galera agents of the nodes that are not live. -/
def recoverSeqnos (source : Node → Course (Ending Int64)) (limit : Duration)
    (cancel : Option Nat) (start : Nat) (reports : List NodeReport) : PhaseResult NodeReport :=
  let nodes := nodesToRecover reports
  let workers := fanOut limit cancel start (nodes.map source)
  ⟨recovered reports (slots .seqno limit workers), lastEnd start workers,
    askedNodes nodes workers⟩

/-- Checks the disks of nodes. A worker also looks whether its reading makes sense. -/
def checkDisks (source : Node → Course (Ending DiskPair)) (limit : Duration)
    (cancel : Option Nat) (start : Nat) (nodes : List Node) : PhaseResult DiskReport :=
  let workers := fanOut limit cancel start
    (nodes.map fun n => (source n).map (Ending.bind DiskPair.checked))
  ⟨diskReports nodes (slots .disk limit workers), lastEnd start workers,
    askedNodes nodes workers⟩

/-- What the canary said. -/
def Canary.ofResult : Except Failure Bool → Canary
  | .ok true => .healthy
  | .ok false => .unhealthy
  | .error f => .unknown f.message

/-- Asks the canary. Only a cancellation limits it, and it is over by then. -/
def checkCanary (course : Course (Except Failure Bool)) (cancel : Nat) : Canary × Nat :=
  let cancelled := (.unknown "canary check cancelled", cancel)
  match course with
  | .never => cancelled
  | .after n r => if cancel ≤ n then cancelled else (.ofResult r, n)

/-- Whom a run asked; `none` where there is nobody to ask. -/
structure Asked where
  status : List Node
  seqno : Option (List Node)
  disk : Option (List Node)

/-- A finished run. -/
structure Run where
  snapshot : Snapshot
  endsAt : Nat
  asked : Asked

/-- When a run is cancelled: from outside, or by its own limit. -/
def cancelTick (limit : Duration) (outside : Option Nat) : Nat :=
  (outside.map (min limit.ticks)).getD limit.ticks

/-- Makes one run with a checked configuration. It may be cancelled from outside at a tick. -/
def CheckedConfig.run (c : CheckedConfig) (sources : Sources) (outside : Option Nat)
    (takenAt : String) : Run :=
  let nodes := c.config.nodes
  let times := c.config.timeouts
  let cancel := cancelTick times.run outside
  let live := checkStatuses sources.status times.nodeStatus (some cancel) 0 nodes
  let agents := sources.seqno.map fun source =>
    recoverSeqnos source times.agent (some cancel) live.endsAt live.reports
  let disks := sources.disk.map fun source =>
    checkDisks source times.diskAgent (some cancel) 0 nodes
  let canary := sources.canary.map fun course => checkCanary course cancel
  let reports := (agents.map PhaseResult.reports).getD live.reports
  let readings := (disks.map PhaseResult.reports).getD []
  let verdict := Verdict.decide c.quorum reports
  { snapshot :=
      { takenAt, nodes := reports, disks := readings
        diskIssues := diskIssues c.config.database.thresholds readings
        needsBootstrap := verdict.needsBootstrap
        verdict
        canary := (canary.map Prod.fst).getD .notConfigured }
    endsAt := max (max ((agents.map PhaseResult.endsAt).getD live.endsAt)
      ((disks.map PhaseResult.endsAt).getD 0)) ((canary.map Prod.snd).getD 0)
    asked := ⟨live.asked, agents.map PhaseResult.asked, disks.map PhaseResult.asked⟩ }

end GaleraHealth
