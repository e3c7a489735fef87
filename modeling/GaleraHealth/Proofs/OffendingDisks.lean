import GaleraHealth.Cluster.DiskRisk

/-!
# The list of disk issues

`diskIssues` walks over reports, disks and shares, and leaves each walk early where there is nothing
to compare. Its answer as a list is the list of all disks that could be read, less those that do not
offend:

* `share`: the share of a total that is in use, by integers up to the division (`used_toNat`).
* `DiskUsage.Offends`: a disk lies strictly above a threshold. A disk without bytes never does, and
  without inodes only its bytes count.
* `DiskReport.readDisks`, `ReadDisk.issue`: the disks of a report in their order, and the issue that
  is made of one.
* `issue?_eq`, `issues_eq`: one disk, and the disks of one report.
* `diskIssues_are_offending_disks`: the issues of a cluster, in their order.
-/

namespace GaleraHealth

/-! ### Shares -/

theorem used_toNat (total free : UInt64) : (used total free).toNat = total.toNat - free.toNat := by
  unfold used
  by_cases h : free ≤ total
  · rw [if_pos h, UInt64.toNat_sub_of_le total free h]
  · have hlt : total.toNat < free.toNat := by
      rw [UInt64.le_iff_toNat_le] at h
      omega
    rw [if_neg h]
    show 0 = total.toNat - free.toNat
    omega

/-- The share of a total that is in use. More free than there is counts as nothing in use. -/
def share (total free : UInt64) : Float :=
  (UInt64.ofNat (total.toNat - free.toNat)).toFloat / total.toFloat

/-- The division is by a total that is not zero. -/
theorem usedFraction?_eq (total free : UInt64) :
    usedFraction? total free = if total = 0 then none else some (share total free) := by
  have hused : used total free = UInt64.ofNat (total.toNat - free.toNat) := by
    rw [← used_toNat, UInt64.ofNat_toNat]
  rw [usedFraction?, share, hused]

/-! ### One disk -/

/-- A disk lies strictly above a threshold. -/
def DiskUsage.Offends (t : Thresholds) (d : DiskUsage) : Prop :=
  d.bytesTotal ≠ 0 ∧ (t.bytes < share d.bytesTotal d.bytesFree ∨
    d.inodesTotal ≠ 0 ∧ t.inodes < share d.inodesTotal d.inodesFree)

instance (t : Thresholds) (d : DiskUsage) : Decidable (d.Offends t) :=
  inferInstanceAs (Decidable (_ ∧ _))

/-- A disk whose counters could be read. -/
structure ReadDisk where
  node : Node
  kind : DiskKind
  usage : DiskUsage

/-- The issue that is made of a disk. -/
def ReadDisk.issue (d : ReadDisk) : DiskIssue where
  node := d.node.identity
  disk := d.kind
  usedFraction := share d.usage.bytesTotal d.usage.bytesFree
  inodesUsedFraction :=
    if d.usage.inodesTotal = 0 then none else some (share d.usage.inodesTotal d.usage.inodesFree)

/-- **One disk** is an issue if it offends. -/
theorem issue?_eq (t : Thresholds) (d : ReadDisk) :
    d.usage.issue? t d.node.identity d.kind = if d.usage.Offends t then some d.issue else none := by
  unfold DiskUsage.issue?
  rw [usedFraction?_eq, usedFraction?_eq]
  by_cases hbytes : d.usage.bytesTotal = 0
  · have hnot : ¬ d.usage.Offends t := fun h => h.1 hbytes
    rw [if_pos hbytes, if_neg hnot]
  · rw [if_neg hbytes]
    by_cases hinodes : d.usage.inodesTotal = 0
    · have hoffends : d.usage.Offends t ↔
          t.bytes < share d.usage.bytesTotal d.usage.bytesFree := by
        simp [DiskUsage.Offends, hbytes, hinodes]
      simp [hinodes, hoffends, ReadDisk.issue]
    · have hoffends : d.usage.Offends t ↔
          t.bytes < share d.usage.bytesTotal d.usage.bytesFree ∨
            t.inodes < share d.usage.inodesTotal d.usage.inodesFree := by
        simp [DiskUsage.Offends, hbytes, hinodes]
      simp [hinodes, hoffends, ReadDisk.issue]

/-! ### All disks -/

/-- The disks of a report, the ephemeral one first. A reading that failed has none. -/
def DiskReport.readDisks (r : DiskReport) : List ReadDisk :=
  match r.reading with
  | .available p => [⟨r.node, .ephemeral, p.ephemeral⟩, ⟨r.node, .persistent, p.persistent⟩]
  | .failed _ => []

theorem filterMap_ite_eq {α β : Type} (p : α → Prop) [DecidablePred p] (f : α → β)
    (xs : List α) :
    (xs.filterMap fun x => if p x then some (f x) else none) =
      (xs.filter fun x => decide (p x)).map f := by
  induction xs with
  | nil => rfl
  | cons x xs ih =>
    by_cases h : p x
    · simp [h, ih]
    · simp [h, ih]

/-- **One report**: its disks that offend, in their order. -/
theorem issues_eq (t : Thresholds) (r : DiskReport) :
    r.issues t = (r.readDisks.filter fun d => decide (d.usage.Offends t)).map ReadDisk.issue := by
  have hwalk : r.issues t = r.readDisks.filterMap fun d =>
      d.usage.issue? t d.node.identity d.kind := by
    unfold DiskReport.issues DiskReport.disks? DiskReport.readDisks
    cases r.reading with
    | available p => rfl
    | failed f => rfl
  rw [hwalk, ← filterMap_ite_eq]
  simp only [issue?_eq]

/-- **The issues of a cluster** are made of exactly the disks that offend, each once, in the order
of the reports and the ephemeral disk before the persistent one. What is in use never wraps around
below zero, and no share of a total of zero is taken. -/
theorem diskIssues_are_offending_disks (t : Thresholds) (reports : List DiskReport) :
    diskIssues t reports = ((reports.flatMap DiskReport.readDisks).filter fun d =>
      decide (d.usage.Offends t)).map ReadDisk.issue ∧
    (∀ total free, ((used total free).toNat : Int) =
      max ((total.toNat : Int) - (free.toNat : Int)) 0) ∧
    ∀ total free, usedFraction? total free =
      if total = 0 then none else some (share total free) := by
  refine ⟨?_, ?_, usedFraction?_eq⟩
  · rw [diskIssues, List.filter_flatMap, List.map_flatMap]
    congr 1
    funext r
    exact issues_eq t r
  · intro total free
    rw [used_toNat]
    omega

end GaleraHealth
