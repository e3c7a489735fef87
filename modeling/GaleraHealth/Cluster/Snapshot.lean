import GaleraHealth.Cluster.DiskRisk
import GaleraHealth.Cluster.Verdict

/-!
# Snapshots

The result of one diagnostic run.
-/

namespace GaleraHealth

/-- What the replication canary says. -/
inductive Canary where
  | healthy
  | unhealthy
  /-- It gave no answer, for this reason. -/
  | unknown (reason : String)
  | notConfigured
  deriving DecidableEq, Repr

/-- The result of one diagnostic run. -/
structure Snapshot where
  takenAt : String
  nodes : List NodeReport
  disks : List DiskReport
  diskIssues : List DiskIssue
  needsBootstrap : Bool
  verdict : Verdict
  canary : Canary

end GaleraHealth
