import GaleraHealth.Proofs.DiskIssues
import GaleraHealth.Proofs.Recovery

/-!
# The reports of a run, node by node

A phase works on lists: of nodes, of courses, of results. Here its reports are written as a function
of each node alone, and an answer in a slot is traced back to the source that gave it.

* `reports_checkStatuses`, `reports_checkDisks`: the report of every configured node.
* `outcome_eq_ok`: a slot holds an answer only if the worker's own course ends with it.
* `checkDisks_available`: a reading that is reported is one that its disk agent gave, and has bytes
  on both disks.
-/

namespace GaleraHealth

theorem reports_checkStatuses (source : Node → Course (Ending NodeStatus)) (limit : Duration)
    (cancel : Option Nat) (start : Nat) (nodes : List Node) :
    (checkStatuses source limit cancel start nodes).reports =
      nodes.map fun n => ⟨n, .ofResult ((source n).outcome .status limit cancel start)⟩ := by
  rw [checkStatuses, slots_fanOut, List.map_map, statusReports, List.zipWith_map_right,
    List.zipWith_self]
  rfl

/-- The course of a disk check: the answer of the agent, if it makes sense. -/
def diskCourse (source : Node → Course (Ending DiskPair)) (n : Node) : Course (Ending DiskPair) :=
  (source n).map (Ending.bind DiskPair.checked)

theorem reports_checkDisks (source : Node → Course (Ending DiskPair)) (limit : Duration)
    (cancel : Option Nat) (start : Nat) (nodes : List Node) :
    (checkDisks source limit cancel start nodes).reports =
      nodes.map fun n =>
        ⟨n, .ofResult ((diskCourse source n).outcome .disk limit cancel start)⟩ := by
  rw [checkDisks, slots_fanOut, List.map_map, diskReports, List.zipWith_map_right,
    List.zipWith_self]
  rfl

/-! ### Where an answer comes from -/

/-- A look that decides an end has found it. -/
theorem ending_of_fate? {α : Type} {f : Finding α} {e : Ending α}
    (h : f.fate? = some (.ended e)) : f.ending = some e := by
  obtain ⟨ending, expired⟩ := f
  cases ending with
  | some e' =>
    cases h
    rfl
  | none => cases expired <;> cases h

/-- A worker that ended by itself ended as its course says. -/
theorem fate_eq_ended {α : Type} {limit : Duration} {cancel : Option Nat} {start : Nat}
    {course : Course (Ending α)} {e : Ending α}
    (h : (course.fate limit cancel start).2 = .ended e) : ∃ n, course = .after n e := by
  -- the look that decided it found this end
  obtain ⟨d, -, hdecision, -⟩ := fate_first_decision limit cancel start course
  rw [h, Course.decision] at hdecision
  by_cases hcancelled : cancelledBy cancel (start + d) = true
  · rw [if_pos hcancelled] at hdecision
    cases hdecision
  · rw [if_neg hcancelled] at hdecision
    have hending := ending_of_fate? hdecision
    cases course with
    | never => cases hending
    | after n e' =>
      have hend : (if n ≤ d then some e' else none) = some e := hending
      by_cases hn : n ≤ d
      · rw [if_pos hn] at hend
        cases hend
        exact ⟨n, rfl⟩
      · rw [if_neg hn] at hend
        cases hend

/-- An answer in a slot is the answer of the worker's own course. -/
theorem outcome_eq_ok {α : Type} {phase : Phase} {limit : Duration} {cancel : Option Nat}
    {start : Nat} {course : Course (Ending α)} {a : α}
    (h : course.outcome phase limit cancel start = .ok a) :
    ∃ n, course = .after n (.answered (.ok a)) := by
  rw [Course.outcome] at h
  cases hfate : (course.fate limit cancel start).2 with
  | cancelled =>
    rw [hfate] at h
    cases h
  | expired =>
    rw [hfate] at h
    cases h
  | ended e =>
    rw [hfate] at h
    cases e with
    | crashed message => cases h
    | answered r =>
      rw [Fate.result] at h
      rw [← h]
      exact fate_eq_ended hfate

/-- A reading that is let through is what the agent answered, with bytes on both disks. -/
theorem diskCourse_eq_ok {source : Node → Course (Ending DiskPair)} {node : Node} {ticks : Nat}
    {p : DiskPair} (h : diskCourse source node = .after ticks (.answered (.ok p))) :
    source node = .after ticks (.answered (.ok p)) ∧ ∀ kind, (p.get kind).bytesTotal ≠ 0 := by
  rw [diskCourse] at h
  cases hsource : source node with
  | never =>
    rw [hsource] at h
    cases h
  | after n e =>
    rw [hsource] at h
    obtain ⟨rfl, hend⟩ := Course.after.inj h
    cases e with
    | crashed message => cases hend
    | answered r =>
      have hr : r.bind DiskPair.checked = .ok p := Ending.answered.inj hend
      cases r with
      | error f => cases hr
      | ok q =>
        obtain ⟨rfl, hbytes⟩ := (DiskPair.checked_eq_ok_iff q p).mp hr
        exact ⟨rfl, hbytes⟩

/-- **A disk reading in a report is one that the node's own agent gave**, and it has bytes on both
disks. -/
theorem checkDisks_available {source : Node → Course (Ending DiskPair)} {limit : Duration}
    {cancel : Option Nat} {start : Nat} {nodes : List Node} {r : DiskReport} {p : DiskPair}
    (hr : r ∈ (checkDisks source limit cancel start nodes).reports)
    (hp : r.reading = .available p) :
    (∃ n, source r.node = .after n (.answered (.ok p))) ∧
      ∀ kind, (p.get kind).bytesTotal ≠ 0 := by
  rw [reports_checkDisks] at hr
  obtain ⟨node, -, rfl⟩ := List.mem_map.mp hr
  cases houtcome : (diskCourse source node).outcome .disk limit cancel start with
  | error f =>
    rw [houtcome] at hp
    cases hp
  | ok q =>
    rw [houtcome] at hp
    cases hp
    obtain ⟨n, hcourse⟩ := outcome_eq_ok houtcome
    obtain ⟨hsource, hbytes⟩ := diskCourse_eq_ok hcourse
    exact ⟨⟨n, hsource⟩, hbytes⟩

end GaleraHealth
