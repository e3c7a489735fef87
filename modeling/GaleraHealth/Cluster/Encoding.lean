import GaleraHealth.Cluster.Snapshot
import GaleraHealth.Json.Basic

/-!
# The JSON form of a snapshot

Every type that occurs in a snapshot has a written form and a reader for it. A failure is tagged by
its kind beside its detail; a verdict and the states of nodes and disks are tagged inside the
record, and the two states share their record with the node. What is missing is `null`, except
for a node's port and for the failure of an agent, which are left out.
-/

namespace GaleraHealth

open Json (form)

/-! ### Nodes and failures -/

/-- Reads a node from any form of document. -/
def Node.read? {ν : Type} (f : Form ν) (d : ν) : Option Node := do
  let fs ← f.record? ["host", "name", "uuid", "port"] 2 d
  let host ← required? fs "host" f.string?
  let name ← required? fs "name" f.string?
  let uuid ← defaulted? fs "uuid" "" f.string?
  let port ← omittable? f fs "port" f.word16?
  return ⟨host, name, uuid, port⟩

def Node.toJson (n : Node) : Json :=
  .object ([("host", .string n.host), ("name", .string n.name), ("uuid", .string n.uuid)] ++
    match n.port with
    | none => []
    | some p => [("port", .ofNat p.toNat)])

def Failure.Kind.names : List (String × Failure.Kind) :=
  [("unreachable", .unreachable), ("auth_failed", .authFailed), ("timeout", .timeout),
    ("query_failed", .queryFailed), ("agent_unavailable", .agentUnavailable),
    ("disk_lookup_failed", .diskLookupFailed)]

def Failure.Kind.name : Failure.Kind → String
  | .unreachable => "unreachable"
  | .authFailed => "auth_failed"
  | .timeout => "timeout"
  | .queryFailed => "query_failed"
  | .agentUnavailable => "agent_unavailable"
  | .diskLookupFailed => "disk_lookup_failed"

theorem Failure.Kind.lookup_name (k : Failure.Kind) : names.lookup k.name = some k := by
  cases k <;> rfl

def Failure.ofJson? (j : Json) : Option Failure := do
  let fs ← j.record? ["kind", "detail"] 2
  let kind ← required? fs "kind" (form.choice? Kind.names)
  let detail ← required? fs "detail" Json.string?
  return ⟨kind, detail⟩

def Failure.toJson (f : Failure) : Json :=
  .object [("kind", .string f.kind.name), ("detail", .string f.detail)]

/-! ### Live status -/

def SyncState.names : List (String × SyncState) :=
  [("synced", .synced), ("donor", .donor), ("joining", .joining), ("joined", .joined),
    ("unknown", .unknown)]

def SyncState.name : SyncState → String
  | .synced => "synced"
  | .donor => "donor"
  | .joining => "joining"
  | .joined => "joined"
  | .unknown => "unknown"

theorem SyncState.lookup_name (s : SyncState) : names.lookup s.name = some s := by
  cases s <;> rfl

def NodeStatus.ofJson? (j : Json) : Option NodeStatus := do
  let fs ← j.record? ["synced_state", "local_state", "cluster_size", "cluster_status",
    "read_only", "local_index", "last_committed"] 7
  let syncState ← required? fs "synced_state" (form.choice? SyncState.names)
  let localState ← required? fs "local_state" Json.string?
  let clusterSize ← required? fs "cluster_size" form.word32?
  let clusterStatus ← required? fs "cluster_status" Json.string?
  let readOnly ← required? fs "read_only" Json.bool?
  let localIndex ← omittable? form fs "local_index" Json.string?
  let lastCommitted ← omittable? form fs "last_committed" Json.signed64?
  return ⟨syncState, localState, clusterSize, clusterStatus, readOnly, localIndex, lastCommitted⟩

def NodeStatus.toJson (s : NodeStatus) : Json :=
  .object [("synced_state", .string s.syncState.name), ("local_state", .string s.localState),
    ("cluster_size", .ofNat s.clusterSize.toNat), ("cluster_status", .string s.clusterStatus),
    ("read_only", .bool s.readOnly), ("local_index", .ofOption .string s.localIndex),
    ("last_committed", .ofOption (.int ·.toInt) s.lastCommitted)]

/-! ### Node reports -/

/-- A tag inside a record that is shared with other fields: its name, or its place in the list of
tags. -/
def sharedTag? {α : Type} (tags : List (String × α)) (fs : List (String × Json))
    (field : String) : Option α :=
  required? fs field fun
    | .string s => tags.lookup s
    | .int n => if 0 ≤ n then (tags[n.toNat]?).map Prod.snd else none
    | _ => none

/-- The states a node can be in. -/
inductive NodeState.Tag where
  | live
  | recovered
  | down

def NodeState.Tag.names : List (String × NodeState.Tag) :=
  [("reachable", .live), ("recovered_seqno", .recovered), ("unavailable", .down)]

/-- Reads what is known of a node; fields that belong to another state are not looked at. -/
def NodeReport.ofJson? (j : Json) : Option NodeReport := do
  let fs ← j.fields?
  let node ← required? fs "node" (Node.read? form)
  let tag ← sharedTag? NodeState.Tag.names fs "state"
  match tag with
  | .live =>
    let status ← required? fs "status" NodeStatus.ofJson?
    return ⟨node, .live status⟩
  | .recovered =>
    let failure ← required? fs "error" Failure.ofJson?
    let seqno ← required? fs "seqno" Json.signed64?
    return ⟨node, .recovered failure seqno⟩
  | .down =>
    let failure ← required? fs "error" Failure.ofJson?
    let agentFailure ← omittable? form fs "agent_error" Failure.ofJson?
    return ⟨node, .down failure agentFailure⟩

/-- The fields that a state adds to the record of a node. -/
def NodeState.toFields : NodeState → List (String × Json)
  | .live s => [("state", .string "reachable"), ("status", s.toJson)]
  | .recovered f n =>
    [("state", .string "recovered_seqno"), ("error", f.toJson), ("seqno", .int n.toInt)]
  | .down f agent =>
    [("state", .string "unavailable"), ("error", f.toJson)] ++
      match agent with
      | none => []
      | some g => [("agent_error", g.toJson)]

def NodeReport.toJson (r : NodeReport) : Json :=
  .object (("node", r.node.toJson) :: r.state.toFields)

/-! ### Disks -/

def DiskUsage.ofJson? (j : Json) : Option DiskUsage := do
  let fs ← j.record? ["bytes_total", "bytes_free", "inodes_total", "inodes_free"] 4
  let bytesTotal ← required? fs "bytes_total" form.word64?
  let bytesFree ← required? fs "bytes_free" form.word64?
  let inodesTotal ← required? fs "inodes_total" form.word64?
  let inodesFree ← required? fs "inodes_free" form.word64?
  return ⟨bytesTotal, bytesFree, inodesTotal, inodesFree⟩

def DiskUsage.toJson (d : DiskUsage) : Json :=
  .object [("bytes_total", .ofNat d.bytesTotal.toNat), ("bytes_free", .ofNat d.bytesFree.toNat),
    ("inodes_total", .ofNat d.inodesTotal.toNat), ("inodes_free", .ofNat d.inodesFree.toNat)]

def DiskPair.ofJson? (j : Json) : Option DiskPair := do
  let fs ← j.record? ["persistent", "ephemeral"] 2
  let persistent ← required? fs "persistent" DiskUsage.ofJson?
  let ephemeral ← required? fs "ephemeral" DiskUsage.ofJson?
  return ⟨persistent, ephemeral⟩

def DiskPair.toJson (p : DiskPair) : Json :=
  .object [("persistent", p.persistent.toJson), ("ephemeral", p.ephemeral.toJson)]

/-- The readings a disk agent can give. -/
inductive DiskReading.Tag where
  | available
  | failed

def DiskReading.Tag.names : List (String × DiskReading.Tag) :=
  [("available", .available), ("failed", .failed)]

def DiskReport.ofJson? (j : Json) : Option DiskReport := do
  let fs ← j.fields?
  let node ← required? fs "node" (Node.read? form)
  let tag ← sharedTag? DiskReading.Tag.names fs "reading"
  match tag with
  | .available =>
    let disks ← required? fs "info" DiskPair.ofJson?
    return ⟨node, .available disks⟩
  | .failed =>
    let failure ← required? fs "error" Failure.ofJson?
    return ⟨node, .failed failure⟩

/-- The fields that a reading adds to the record of a node. -/
def DiskReading.toFields : DiskReading → List (String × Json)
  | .available p => [("reading", .string "available"), ("info", p.toJson)]
  | .failed f => [("reading", .string "failed"), ("error", f.toJson)]

def DiskReport.toJson (r : DiskReport) : Json :=
  .object (("node", r.node.toJson) :: r.reading.toFields)

def DiskKind.names : List (String × DiskKind) :=
  [("Persistent", .persistent), ("Ephemeral", .ephemeral)]

theorem DiskKind.lookup_label (k : DiskKind) : names.lookup k.label = some k := by
  cases k <;> rfl

def DiskIssue.ofJson? (j : Json) : Option DiskIssue := do
  let fs ← j.record? ["node", "disk_type", "used_fraction", "inodes_used_fraction"] 4
  let node ← required? fs "node" Json.string?
  let disk ← required? fs "disk_type" (form.choice? DiskKind.names)
  let usedFraction ← required? fs "used_fraction" Json.float?
  let inodesUsedFraction ← omittable? form fs "inodes_used_fraction" Json.float?
  return ⟨node, disk, usedFraction, inodesUsedFraction⟩

def DiskIssue.toJson (i : DiskIssue) : Json :=
  .object [("node", .string i.node), ("disk_type", .string i.disk.label),
    ("used_fraction", .ofFloat i.usedFraction),
    ("inodes_used_fraction", .ofOption .ofFloat i.inodesUsedFraction)]

/-! ### Verdict and canary -/

inductive Verdict.Tag where
  | notNeeded
  | bootstrap
  | manualInvestigation

def Verdict.Tag.names : List (String × Verdict.Tag) :=
  [("not_needed", .notNeeded), ("bootstrap", .bootstrap),
    ("manual_investigation", .manualInvestigation)]

/-- The tag of a verdict and the record beside it. A list holds the tag first. -/
def Verdict.split? : Json → Option (Verdict.Tag × Json)
  | .object fs => (required? fs "decision" fun j =>
      j.string?.bind fun s => Tag.names.lookup s).map fun t => (t, .object fs)
  | .array (.string s :: rest) => (Tag.names.lookup s).map fun t => (t, .array rest)
  | _ => none

/-- Reads what stands beside the tag of a verdict. -/
def Verdict.beside? (tag : Verdict.Tag) (j : Json) : Option Verdict :=
  match tag with
  | .notNeeded => do
    let fs ← j.record? ["healthy_node"] 1
    let node ← required? fs "healthy_node" Json.string?
    return .notNeeded node
  | .bootstrap => do
    let fs ← j.record? ["candidate", "seqno"] 2
    let candidate ← required? fs "candidate" Json.string?
    let seqno ← required? fs "seqno" Json.signed64?
    return .bootstrap candidate seqno
  | .manualInvestigation => do
    let _ ← j.record? [] 0
    return .manualInvestigation

def Verdict.ofJson? (j : Json) : Option Verdict :=
  (Verdict.split? j).bind fun (tag, rest) => Verdict.beside? tag rest

def Verdict.toJson : Verdict → Json
  | .notNeeded node =>
    .object [("decision", .string "not_needed"), ("healthy_node", .string node)]
  | .bootstrap candidate seqno =>
    .object [("decision", .string "bootstrap"), ("candidate", .string candidate),
      ("seqno", .int seqno.toInt)]
  | .manualInvestigation => .object [("decision", .string "manual_investigation")]

/-- The tags of the canary's states. -/
inductive Canary.Tag where
  | healthy
  | unhealthy
  | unknown
  | notConfigured

def Canary.Tag.names : List (String × Canary.Tag) :=
  [("healthy", .healthy), ("unhealthy", .unhealthy), ("unknown", .unknown),
    ("not_configured", .notConfigured)]

def Canary.ofJson? (j : Json) : Option Canary := do
  let fs ← j.record? ["canary", "reason"] 2
  let tag ← required? fs "canary" (form.choice? Canary.Tag.names)
  let plain (c : Canary) : Option Canary :=
    if (List.lookup "reason" fs).all Json.isNull then some c else none
  match tag with
  | .healthy => plain .healthy
  | .unhealthy => plain .unhealthy
  | .notConfigured => plain .notConfigured
  | .unknown => (required? fs "reason" Json.string?).map .unknown

def Canary.toJson : Canary → Json
  | .healthy => .object [("canary", .string "healthy")]
  | .unhealthy => .object [("canary", .string "unhealthy")]
  | .unknown reason => .object [("canary", .string "unknown"), ("reason", .string reason)]
  | .notConfigured => .object [("canary", .string "not_configured")]

/-! ### Snapshots -/

def Snapshot.ofJson? (j : Json) : Option Snapshot := do
  let fs ← j.record? ["taken_at", "node_cluster_statuses", "node_disk_infos",
    "disk_space_issues", "needs_bootstrap", "bootstrap", "canary"] 7
  let takenAt ← required? fs "taken_at" Json.string?
  let nodes ← required? fs "node_cluster_statuses" (form.list? NodeReport.ofJson?)
  let disks ← required? fs "node_disk_infos" (form.list? DiskReport.ofJson?)
  let diskIssues ← required? fs "disk_space_issues" (form.list? DiskIssue.ofJson?)
  let needsBootstrap ← required? fs "needs_bootstrap" Json.bool?
  let verdict ← required? fs "bootstrap" Verdict.ofJson?
  let canary ← required? fs "canary" Canary.ofJson?
  return ⟨takenAt, nodes, disks, diskIssues, needsBootstrap, verdict, canary⟩

def Snapshot.toJson (s : Snapshot) : Json :=
  .object [("taken_at", .string s.takenAt),
    ("node_cluster_statuses", .ofList NodeReport.toJson s.nodes),
    ("node_disk_infos", .ofList DiskReport.toJson s.disks),
    ("disk_space_issues", .ofList DiskIssue.toJson s.diskIssues),
    ("needs_bootstrap", .bool s.needsBootstrap), ("bootstrap", s.verdict.toJson),
    ("canary", s.canary.toJson)]

end GaleraHealth
