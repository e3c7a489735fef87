import GaleraHealth.Cluster.NodeReport
import GaleraHealth.Cluster.Quorum

/-!
# The verdict

Whether the cluster has to be bootstrapped, and from which node. A healthy node makes a bootstrap
unnecessary. Otherwise the node with the highest known sequence number is the candidate, the first
of several; without any known number people have to decide.
-/

namespace GaleraHealth

/-- What to do about the cluster. -/
inductive Verdict where
  /-- Nothing: this node is healthy. -/
  | notNeeded (healthyNode : String)
  /-- Bootstrap from this node. -/
  | bootstrap (candidate : String) (seqno : Int64)
  /-- No node reported a sequence number. -/
  | manualInvestigation
  deriving DecidableEq, Repr

namespace Verdict

/-- Whether the primary component is lost. -/
def needsBootstrap : Verdict → Bool
  | .notNeeded _ => false
  | _ => true

/-- The number of nodes as a 64-bit word. -/
def nodeCount {α : Type} (xs : List α) : UInt64 :=
  if xs.length ≤ 0xFFFFFFFFFFFFFFFF then UInt64.ofNat xs.length else 0xFFFFFFFFFFFFFFFF

/-- Whether a node is live and healthy. -/
def isServing (q : Quorum) (configured : UInt64) (r : NodeReport) : Bool :=
  r.status?.any fun s => q.isHealthy s configured

/-- The better of the candidate so far and the next node: a higher known sequence number wins, and
of equal ones the earlier. -/
def better (best : Option (NodeReport × Int64)) (r : NodeReport) : Option (NodeReport × Int64) :=
  match r.knownSeqno?, best with
  | none, best => best
  | some n, none => some (r, n)
  | some n, some (b, m) => if m < n then some (r, n) else some (b, m)

/-- The first of the nodes with the highest known sequence number. -/
def candidate? (reports : List NodeReport) : Option (NodeReport × Int64) :=
  reports.foldl better none

/-- The verdict on a cluster. -/
def decide (q : Quorum) (reports : List NodeReport) : Verdict :=
  match reports.find? (isServing q (nodeCount reports)) with
  | some r => .notNeeded r.node.identity
  | none =>
    match candidate? reports with
    | some (r, n) => .bootstrap r.node.identity n
    | none => .manualInvestigation

end Verdict

end GaleraHealth
