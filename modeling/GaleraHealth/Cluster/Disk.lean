import GaleraHealth.Cluster.Failure
import GaleraHealth.Cluster.Node

/-!
# Disks

Every node has a persistent and an ephemeral disk. Their totals and free counts are 64-bit words,
and nothing forbids a disk agent to report more free than there is in total.
-/

namespace GaleraHealth

/-- The counters of one disk. -/
structure DiskUsage where
  bytesTotal : UInt64
  bytesFree : UInt64
  inodesTotal : UInt64
  inodesFree : UInt64
  deriving DecidableEq, Repr

/-- The two disks of a node. -/
structure DiskPair where
  persistent : DiskUsage
  ephemeral : DiskUsage
  deriving DecidableEq, Repr

/-- Which of the two disks. -/
inductive DiskKind where
  | persistent
  | ephemeral
  deriving DecidableEq, Repr

def DiskKind.label : DiskKind → String
  | .persistent => "Persistent"
  | .ephemeral => "Ephemeral"

def DiskPair.get (p : DiskPair) : DiskKind → DiskUsage
  | .persistent => p.persistent
  | .ephemeral => p.ephemeral

/-- What the disk agent of a node said. -/
inductive DiskReading where
  | available (disks : DiskPair)
  | failed (failure : Failure)
  deriving DecidableEq, Repr

/-- What is known of the disks of one configured node. -/
structure DiskReport where
  node : Node
  reading : DiskReading
  deriving DecidableEq, Repr

/-- The disks, if they could be read. -/
def DiskReport.disks? (r : DiskReport) : Option DiskPair :=
  match r.reading with
  | .available p => some p
  | .failed _ => none

/-- A disk without any bytes is a broken reading and not an empty disk. The persistent disk is
looked at first. -/
def DiskPair.checked (p : DiskPair) : Except Failure DiskPair :=
  if p.persistent.bytesTotal = 0 then
    .error ⟨.diskLookupFailed, "persistent disk reported zero total bytes"⟩
  else if p.ephemeral.bytesTotal = 0 then
    .error ⟨.diskLookupFailed, "ephemeral disk reported zero total bytes"⟩
  else .ok p

end GaleraHealth
