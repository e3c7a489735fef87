import GaleraHealth.Check.FanOut
import GaleraHealth.Cluster.Disk
import GaleraHealth.Cluster.NodeReport

/-!
# Reports from results

The results of a phase stand in the order of the nodes that were asked. In the first phase these
are all configured nodes. The galera agents are asked only about nodes that are not live, so their
results are handed out to those nodes in order, and every live node is passed over.
-/

namespace GaleraHealth

/-- What is known of a node after its live check. -/
def NodeState.ofResult : Except Failure NodeStatus → NodeState
  | .ok s => .live s
  | .error f => .down f none

def statusReports (nodes : List Node) (results : List (Except Failure NodeStatus)) :
    List NodeReport :=
  nodes.zipWith (fun n r => ⟨n, .ofResult r⟩) results

/-- What is known of a node that is not live once its agent has been asked. The failure of the live
check stays. -/
def NodeState.afterLookup (failure : Failure) : Except Failure Int64 → NodeState
  | .ok n => .recovered failure n
  | .error f => .down failure (some f)

/-- The nodes whose agents are asked. -/
def nodesToRecover (reports : List NodeReport) : List Node :=
  (reports.filter fun r => !r.isLive).map NodeReport.node

/-- Hands the results of the agents to the nodes that are not live. -/
def recovered : List NodeReport → List (Except Failure Int64) → List NodeReport
  | [], _ => []
  | r :: rest, results =>
    match r.failure?, results with
    | none, results => r :: recovered rest results
    | some f, [] => ⟨r.node, .down f none⟩ :: recovered rest []
    | some f, result :: results => ⟨r.node, .afterLookup f result⟩ :: recovered rest results

def DiskReading.ofResult : Except Failure DiskPair → DiskReading
  | .ok p => .available p
  | .error f => .failed f

def diskReports (nodes : List Node) (results : List (Except Failure DiskPair)) :
    List DiskReport :=
  nodes.zipWith (fun n r => ⟨n, .ofResult r⟩) results

theorem length_recovered (reports : List NodeReport) (results : List (Except Failure Int64)) :
    (recovered reports results).length = reports.length := by
  fun_induction recovered reports results <;> simp_all

end GaleraHealth
