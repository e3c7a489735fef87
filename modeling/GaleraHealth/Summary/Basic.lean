import GaleraHealth.Cluster.Snapshot
import GaleraHealth.Summary.Amounts
import GaleraHealth.Summary.Table

/-!
# The summary of a snapshot

A snapshot as people read it on a terminal: when it was taken, a table of the nodes, a table of the
disks if any were asked for, the verdict, a warning for each disk issue, and the canary.
-/

namespace GaleraHealth.Summary

/-- What stands in a cell whose value is not known. -/
def unknownCell : String := "N/A - ERROR"

def nodeTable (s : Snapshot) : Table where
  header := ["HOST", "NAME/UUID", "WSREP LOCAL STATE", "WSREP CLUSTER STATUS",
    "WSREP CLUSTER SIZE"]
  rows := s.nodes.map fun r =>
    [r.node.host, r.node.shortIdentity] ++
      match r.status? with
      | some st => [st.localState, st.clusterStatus, Decimal.natText st.clusterSize.toNat]
      | none => [unknownCell, unknownCell, unknownCell]

def diskTable (s : Snapshot) : Table where
  header := ["HOST", "NAME/UUID", "PERSISTENT DISK USED", "EPHEMERAL DISK USED"]
  rows := s.disks.map fun r =>
    [r.node.host, r.node.shortIdentity] ++
      match r.disks? with
      | some p => [describeDisk p.persistent, describeDisk p.ephemeral]
      | none => [unknownCell, unknownCell]

def verdictLines : Verdict → List String
  | .notNeeded node => ["Bootstrap not necessary (" ++ node ++ " is healthy)"]
  | .bootstrap candidate seqno =>
    ["[CRITICAL] You must bootstrap the cluster.",
      "[CRITICAL] Bootstrap node: \"" ++ candidate ++ "\" (seqno " ++
        Decimal.intText seqno.toInt ++ ")"]
  | .manualInvestigation =>
    ["[CRITICAL] You must bootstrap the cluster.",
      "[CRITICAL] No node reported a sequence number, inspect each node manually before " ++
        "choosing one."]

/-- The line about a disk that is nearly full. -/
def issueLine (i : DiskIssue) : String :=
  "[WARNING] " ++ i.disk.label ++ " disk usage is very high on node " ++ i.node ++
    ". Consider re-deploying with larger " ++ i.disk.label ++ " disks."

def canaryLines : Canary → List String
  | .healthy => ["Canary: healthy"]
  | .unhealthy => ["[WARNING] Canary reports replication is unhealthy"]
  | .unknown reason => ["Canary: unknown (" ++ reason ++ ")"]
  | .notConfigured => []

/-- The parts of a summary, each of which starts a line. -/
def parts (s : Snapshot) : List String :=
  ["Snapshot taken at " ++ s.takenAt, (nodeTable s).render] ++
    (if s.disks.isEmpty then [] else [(diskTable s).render]) ++
    verdictLines s.verdict ++ s.diskIssues.map issueLine ++ canaryLines s.canary

def render (s : Snapshot) : String :=
  "\n".intercalate (parts s) ++ "\n"

end GaleraHealth.Summary
