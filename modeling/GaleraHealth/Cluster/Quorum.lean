import GaleraHealth.Cluster.NodeStatus

/-!
# Quorum

When a node's own view of the cluster is large enough for a primary component, and when a node
counts as healthy.
-/

namespace GaleraHealth

/-- How a view of the cluster is judged. -/
inductive Policy where
  /-- The node reports a primary component and, unless it is the only configured node, does not
  see itself alone. -/
  | primaryComponent
  /-- The node sees more than half of the configured nodes. -/
  | majority
  /-- The node sees at least so many members. -/
  | minClusterSize (least : UInt32)
  deriving DecidableEq, Repr

/-- A policy, and whether a node has to take writes. -/
structure Quorum where
  policy : Policy
  requireWritable : Bool
  deriving DecidableEq, Repr

/-- Whether a view of `size` members is more than half of `count` nodes. Both are words, and the
double of a 32-bit word fits into 64 bits. -/
def isMajority (size : UInt32) (count : UInt64) : Bool :=
  count < size.toUInt64 * 2

/-- Whether the view that a status describes is large enough for `configured` nodes. -/
def Policy.admits (p : Policy) (s : NodeStatus) (configured : UInt64) : Bool :=
  match p with
  | .primaryComponent => s.isPrimary && (configured ≤ 1 || 1 < s.clusterSize)
  | .majority => isMajority s.clusterSize configured
  | .minClusterSize least => least ≤ s.clusterSize

namespace Quorum

/-- The quorum of a configuration that names none. -/
def standard : Quorum := ⟨.primaryComponent, true⟩

/-- Whether a node with this status can serve: it is synced, takes writes if that is required, and
its view is large enough. -/
def isHealthy (q : Quorum) (s : NodeStatus) (configured : UInt64) : Bool :=
  s.syncState == .synced && !(q.requireWritable && s.readOnly) && q.policy.admits s configured

end Quorum

end GaleraHealth
