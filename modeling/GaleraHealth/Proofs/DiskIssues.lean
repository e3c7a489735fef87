import GaleraHealth.Cluster.DiskRisk

/-!
# Which disks are issues

`diskIssues` walks over all reports and both disks of each. Here its answer is described from the
side of a single issue.

* `DiskUsage.Exceeds`: a disk lies strictly above a threshold, and an issue carries its shares.
* `issue?_eq_some_iff`, `mem_issues_iff`, `mem_diskIssues_iff`: the same for one disk, for one node
  and for the whole cluster.
* `checked_eq_ok_iff`: the readings that a worker lets through.
-/

namespace GaleraHealth

/-- A disk is nearly full, and an issue says how full. -/
structure DiskUsage.Exceeds (d : DiskUsage) (t : Thresholds) (i : DiskIssue) : Prop where
  bytes : usedFraction? d.bytesTotal d.bytesFree = some i.usedFraction
  inodes : usedFraction? d.inodesTotal d.inodesFree = i.inodesUsedFraction
  above : t.bytes < i.usedFraction ∨ ∃ share, i.inodesUsedFraction = some share ∧ t.inodes < share

/-- One disk is an issue exactly when it lies above a threshold. -/
theorem issue?_eq_some_iff (t : Thresholds) (node : String) (kind : DiskKind) (d : DiskUsage)
    (i : DiskIssue) :
    d.issue? t node kind = some i ↔ i.node = node ∧ i.disk = kind ∧ d.Exceeds t i := by
  unfold DiskUsage.issue?
  cases hbytes : usedFraction? d.bytesTotal d.bytesFree with
  | none =>
    constructor
    · intro h
      cases h
    · rintro ⟨-, -, hexceeds⟩
      have hsome := hexceeds.bytes
      rw [hbytes] at hsome
      cases hsome
  | some share =>
    simp only [Option.ite_none_right_eq_some, Bool.or_eq_true, decide_eq_true_eq,
      Option.any_eq_true]
    constructor
    · rintro ⟨habove, h⟩
      cases h
      exact ⟨rfl, rfl, hbytes, rfl, habove⟩
    · rintro ⟨rfl, rfl, hexceeds⟩
      have hshare := hexceeds.bytes
      rw [hbytes] at hshare
      cases hshare
      rw [hexceeds.inodes]
      exact ⟨hexceeds.above, rfl⟩

theorem disks?_eq_some_iff (r : DiskReport) (p : DiskPair) :
    r.disks? = some p ↔ r.reading = .available p := by
  obtain ⟨node, reading⟩ := r
  cases reading with
  | available q => simp [DiskReport.disks?]
  | failed f => simp [DiskReport.disks?]

/-- A node has an issue exactly when its disks could be read and one of them lies above a
threshold. -/
theorem mem_issues_iff (t : Thresholds) (r : DiskReport) (i : DiskIssue) :
    i ∈ r.issues t ↔
      ∃ p, r.reading = .available p ∧ i.node = r.node.identity ∧ (p.get i.disk).Exceeds t i := by
  unfold DiskReport.issues
  simp only [← disks?_eq_some_iff]
  cases hdisks : r.disks? with
  | none => simp
  | some p =>
    simp only [List.mem_filterMap, issue?_eq_some_iff, Option.some.injEq, exists_eq_left']
    constructor
    · rintro ⟨kind, -, hnode, rfl, hexceeds⟩
      exact ⟨hnode, hexceeds⟩
    · rintro ⟨hnode, hexceeds⟩
      refine ⟨i.disk, ?_, hnode, rfl, hexceeds⟩
      cases i.disk <;> simp

/-- **The issues of a cluster** are those of its nodes. -/
theorem mem_diskIssues_iff (t : Thresholds) (reports : List DiskReport) (i : DiskIssue) :
    i ∈ diskIssues t reports ↔ ∃ r ∈ reports, ∃ p, r.reading = .available p ∧
      i.node = r.node.identity ∧ (p.get i.disk).Exceeds t i := by
  simp only [diskIssues, List.mem_flatMap, mem_issues_iff]

/-- A worker lets a reading through as it is, and only if both disks have bytes. -/
theorem DiskPair.checked_eq_ok_iff (p q : DiskPair) :
    p.checked = .ok q ↔ q = p ∧ ∀ kind, (p.get kind).bytesTotal ≠ 0 := by
  unfold DiskPair.checked
  by_cases hpersistent : p.persistent.bytesTotal = 0
  · rw [if_pos hpersistent]
    constructor
    · intro h
      cases h
    · rintro ⟨-, hbytes⟩
      exact absurd hpersistent (hbytes .persistent)
  · rw [if_neg hpersistent]
    by_cases hephemeral : p.ephemeral.bytesTotal = 0
    · rw [if_pos hephemeral]
      constructor
      · intro h
        cases h
      · rintro ⟨-, hbytes⟩
        exact absurd hephemeral (hbytes .ephemeral)
    · rw [if_neg hephemeral]
      constructor
      · intro h
        cases h
        refine ⟨rfl, fun kind => ?_⟩
        cases kind with
        | persistent => exact hpersistent
        | ephemeral => exact hephemeral
      · rintro ⟨rfl, -⟩
        rfl

end GaleraHealth
