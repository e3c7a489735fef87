import GaleraHealth.Cluster.Disk

/-!
# Disks that are nearly full

A disk is an issue when the share of its bytes or of its inodes that is in use lies strictly above
the threshold for it.
-/

namespace GaleraHealth

/-- The shares in use above which a disk is an issue. -/
structure Thresholds where
  bytes : Float
  inodes : Float

/-- The thresholds of a configuration that names none. -/
def Thresholds.standard : Thresholds := ⟨0.8, 0.8⟩

/-- A disk that is nearly full. -/
structure DiskIssue where
  /-- The identity of the node. -/
  node : String
  disk : DiskKind
  usedFraction : Float
  inodesUsedFraction : Option Float

/-- What is in use of a total; more free than there is counts as nothing in use. -/
def used (total free : UInt64) : UInt64 :=
  if free ≤ total then total - free else 0

/-- The share of a total that is in use, if there is a total. -/
def usedFraction? (total free : UInt64) : Option Float :=
  if total = 0 then none else some ((used total free).toFloat / total.toFloat)

/-- The issue with one disk, if there is one. A disk without bytes is none. -/
def DiskUsage.issue? (t : Thresholds) (node : String) (kind : DiskKind) (d : DiskUsage) :
    Option DiskIssue :=
  match usedFraction? d.bytesTotal d.bytesFree with
  | none => none
  | some bytes =>
    let inodes := usedFraction? d.inodesTotal d.inodesFree
    if t.bytes < bytes || inodes.any (t.inodes < ·) then some ⟨node, kind, bytes, inodes⟩ else none

/-- The issues with the disks of one node, the ephemeral disk first. -/
def DiskReport.issues (t : Thresholds) (r : DiskReport) : List DiskIssue :=
  match r.disks? with
  | none => []
  | some p =>
    [DiskKind.ephemeral, .persistent].filterMap fun k => (p.get k).issue? t r.node.identity k

/-- The issues of a whole cluster, node by node. -/
def diskIssues (t : Thresholds) (reports : List DiskReport) : List DiskIssue :=
  reports.flatMap (DiskReport.issues t)

end GaleraHealth
