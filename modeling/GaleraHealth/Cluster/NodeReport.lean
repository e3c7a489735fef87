import GaleraHealth.Cluster.Failure
import GaleraHealth.Cluster.Node
import GaleraHealth.Cluster.NodeStatus

/-!
# What is known of each node

A node is live, or it is down. Of a node that is down the galera agent may still have reported the
last sequence number; the failure of the live check is kept either way.
-/

namespace GaleraHealth

/-- What is known of a node. -/
inductive NodeState where
  /-- The live check answered. -/
  | live (status : NodeStatus)
  /-- The live check failed and the agent reported a sequence number. -/
  | recovered (failure : Failure) (seqno : Int64)
  /-- The live check failed, and so did the agent if it was asked. -/
  | down (failure : Failure) (agentFailure : Option Failure)
  deriving DecidableEq, Repr

/-- What is known of one configured node. -/
structure NodeReport where
  node : Node
  state : NodeState
  deriving DecidableEq, Repr

namespace NodeReport

/-- The live status. -/
def status? (r : NodeReport) : Option NodeStatus :=
  match r.state with
  | .live s => some s
  | _ => none

def failure? (r : NodeReport) : Option Failure :=
  match r.state with
  | .live _ => none
  | .recovered f _ => some f
  | .down f _ => some f

def isLive (r : NodeReport) : Bool :=
  r.status?.isSome

/-- The sequence number that may rank the node among bootstrap candidates. A negative one stands
for none. -/
def knownSeqno? (r : NodeReport) : Option Int64 :=
  let seqno := match r.state with
    | .live s => s.lastCommitted
    | .recovered _ n => some n
    | .down _ _ => none
  seqno.filter fun n => 0 ≤ n

theorem knownSeqno?_nonneg {r : NodeReport} {n : Int64} (h : r.knownSeqno? = some n) : 0 ≤ n := by
  simp only [knownSeqno?, Option.filter_eq_some_iff, decide_eq_true_eq] at h
  exact h.2

end NodeReport

end GaleraHealth
