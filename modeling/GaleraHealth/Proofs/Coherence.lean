import GaleraHealth.Proofs.AcceptedConfig
import GaleraHealth.Proofs.RunReports
import GaleraHealth.Proofs.VerdictRule

/-!
# Snapshots are coherent

A snapshot says several things about one cluster: what is known of every node, what its disks are
like, what the verdict is, and which disks are issues. `Snapshot.Coherent` says how these belong
together. It rests on three facts:

* `nodes_run`, `disks_run`: the records of a run are those of the configured nodes, in their order.
* `isOnly_of_mem`: the configuration has distinct identities, so a name in the verdict or in an
  issue belongs to one record only.
* `isVerdict_decide`, `mem_diskIssues_iff`, `checkDisks_available`: what is said about that record.

`coherent_run` puts them together for every accepted configuration, whatever the nodes and agents do
and whenever the run is cancelled.
-/

namespace GaleraHealth

/-- The only one of some records about nodes that has a name. -/
def IsOnly {α : Type} (node : α → Node) (records : List α) (name : String) (x : α) : Prop :=
  records.filter (fun y => (node y).identity = name) = [x]

/-- Where identities are distinct, a record is the only one with its name. -/
theorem isOnly_of_mem {α : Type} {node : α → Node} {records : List α}
    (h : ((records.map node).map Node.identity).Nodup) {x : α} (hx : x ∈ records) :
    IsOnly node records (node x).identity x := by
  rw [List.map_map] at h
  exact filter_key_eq_singleton h hx

/-- How the parts of a snapshot belong together, for a configuration, the quorum it describes, and
with or without disk agents. -/
structure Snapshot.Coherent (config : ClusterConfig) (q : Quorum) (asksDisks : Bool)
    (s : Snapshot) : Prop where
  /-- There is one record for each configured node, in their order. -/
  nodes : s.nodes.map NodeReport.node = config.nodes
  /-- So there is of disks, if disk agents are asked, and none otherwise. -/
  disks : s.disks.map DiskReport.node = if asksDisks then config.nodes else []
  needsBootstrap : s.needsBootstrap = true ↔ ∀ name, s.verdict ≠ .notNeeded name
  /-- A bootstrap is not needed because of one node, which is live and healthy. -/
  notNeeded : ∀ name, s.verdict = .notNeeded name →
    ∃ r, IsOnly NodeReport.node s.nodes name r ∧ Verdict.Serves q config.nodes.length r
  /-- The candidate is one node, and nobody knows a higher number than it does. -/
  bootstrap : ∀ name n, s.verdict = .bootstrap name n →
    ∃ r, IsOnly NodeReport.node s.nodes name r ∧ r.Knows n ∧ 0 ≤ n ∧
      ∀ x ∈ s.nodes, ∀ m, x.Knows m → m ≤ n
  /-- No disk in a reading is without bytes. -/
  available : ∀ d ∈ s.disks, ∀ p, d.reading = .available p →
    ∀ kind, (p.get kind).bytesTotal ≠ 0
  /-- An issue is about one node, whose disk was read and lies above a threshold. -/
  diskIssues : ∀ i ∈ s.diskIssues, ∃ d p, IsOnly DiskReport.node s.disks i.node d ∧
    d.reading = .available p ∧ (p.get i.disk).Exceeds config.database.thresholds i

/-! ### Whom the verdict names -/

namespace Verdict

variable {q : Quorum} {reports : List NodeReport}
  (hdistinct : ((reports.map NodeReport.node).map Node.identity).Nodup)
include hdistinct

theorem notNeeded_names_one {name : String} (h : decide q reports = .notNeeded name) :
    ∃ r, IsOnly NodeReport.node reports name r ∧ Serves q reports.length r := by
  have hverdict := isVerdict_decide q reports
  rw [h] at hverdict
  cases hverdict with
  | notNeeded hfirst => exact ⟨_, isOnly_of_mem hdistinct hfirst.mem, hfirst.1⟩

theorem bootstrap_names_one {name : String} {n : Int64}
    (h : decide q reports = .bootstrap name n) :
    ∃ r, IsOnly NodeReport.node reports name r ∧ r.Knows n ∧ 0 ≤ n ∧
      ∀ x ∈ reports, ∀ m, x.Knows m → m ≤ n := by
  have hverdict := isVerdict_decide q reports
  rw [h] at hverdict
  cases hverdict with
  | bootstrap _ hfirst hmax =>
    exact ⟨_, isOnly_of_mem hdistinct hfirst.mem, hfirst.1, hfirst.1.nonneg, hmax⟩

end Verdict

theorem needsBootstrap_iff (v : Verdict) :
    v.needsBootstrap = true ↔ ∀ name, v ≠ .notNeeded name := by
  cases v with
  | notNeeded name =>
    constructor
    · intro h
      cases h
    · intro h
      exact absurd rfl (h name)
  | bootstrap name n =>
    refine ⟨fun _ _ h => ?_, fun _ => rfl⟩
    cases h
  | manualInvestigation =>
    refine ⟨fun _ _ h => ?_, fun _ => rfl⟩
    cases h

/-! ### The records of a run -/

namespace CheckedConfig

variable (c : CheckedConfig) (sources : Sources) (outside : Option Nat) (takenAt : String)

theorem nodes_run :
    (c.run sources outside takenAt).snapshot.nodes.map NodeReport.node = c.config.nodes := by
  have hlive : ∀ cancel, (checkStatuses sources.status c.config.timeouts.nodeStatus cancel 0
      c.config.nodes).reports.map NodeReport.node = c.config.nodes := by
    intro cancel
    rw [reports_checkStatuses, List.map_map]
    exact List.map_id _
  unfold run
  cases sources.seqno with
  | none => exact hlive _
  | some source => exact (map_node_recovered _ _).trans (hlive _)

theorem disks_run : (c.run sources outside takenAt).snapshot.disks.map DiskReport.node =
    if sources.disk.isSome then c.config.nodes else [] := by
  unfold run
  cases sources.disk with
  | none => rfl
  | some source =>
    show (checkDisks source _ _ 0 c.config.nodes).reports.map DiskReport.node = c.config.nodes
    rw [reports_checkDisks, List.map_map]
    exact List.map_id _

theorem available_run {d : DiskReport} {p : DiskPair}
    (hd : d ∈ (c.run sources outside takenAt).snapshot.disks) (hp : d.reading = .available p) :
    ∀ kind, (p.get kind).bytesTotal ≠ 0 := by
  unfold run at hd
  cases hsource : sources.disk with
  | none =>
    simp only [hsource] at hd
    cases hd
  | some source =>
    simp only [hsource] at hd
    exact (checkDisks_available hd hp).2

end CheckedConfig

/-- **Every snapshot is coherent.** For a configuration that is accepted, the parts of the snapshot
belong together whatever the databases, the agents and the canary do: answer, fail, crash or never
come to an end, and whenever the run is cancelled. -/
theorem coherent_run {config : ClusterConfig} {c : CheckedConfig} (h : config.checked = .ok c)
    (sources : Sources) (outside : Option Nat) (takenAt : String) :
    config.quorum.quorum? = some c.quorum ∧
      (c.run sources outside takenAt).snapshot.Coherent config c.quorum sources.disk.isSome := by
  obtain ⟨hpasses, rfl, hquorum⟩ := (checked_eq_ok_iff config c).mp h
  have hnodes := c.nodes_run sources outside takenAt
  have hdisks := c.disks_run sources outside takenAt
  have hdistinct : (((c.run sources outside takenAt).snapshot.nodes.map NodeReport.node).map
      Node.identity).Nodup := by
    rw [hnodes]
    exact hpasses.nodup_identities
  have hdistinctDisks : (((c.run sources outside takenAt).snapshot.disks.map
      DiskReport.node).map Node.identity).Nodup := by
    rw [hdisks]
    split
    · exact hpasses.nodup_identities
    · exact List.nodup_nil
  have hlength : (c.run sources outside takenAt).snapshot.nodes.length =
      c.config.nodes.length := by
    rw [← hnodes, List.length_map]
  refine ⟨hquorum, hnodes, hdisks, needsBootstrap_iff _, ?_, ?_, ?_, ?_⟩
  · intro name hname
    rw [← hlength]
    exact Verdict.notNeeded_names_one hdistinct hname
  · intro name n hname
    exact Verdict.bootstrap_names_one hdistinct hname
  · intro d hd p hp
    exact c.available_run sources outside takenAt hd hp
  · intro i hi
    obtain ⟨d, hd, p, hp, hname, hexceeds⟩ := (mem_diskIssues_iff _ _ i).mp hi
    refine ⟨d, p, ?_, hp, hexceeds⟩
    rw [hname]
    exact isOnly_of_mem hdistinctDisks hd

/-- Two nodes with galera agents and disk agents. -/
def pairConfig : ClusterConfig where
  database :=
    { username := "diag", password := "secret", port := 3306
      agent := some ⟨"disk", "secret", 9000, .off⟩
      thresholds := .standard
      nodes := [⟨"10.0.0.1", "mysql", "a", none⟩, ⟨"10.0.0.2", "mysql", "b", none⟩] }
  galeraAgent := some ⟨"galera", "secret", 9200, .off⟩
  canary := none
  timeouts := .standard
  quorum := .standard

/-- The first node never answers, but its agent knows its number, and one of its disks is nearly
full. The second sees no primary component, and its disk agent crashes. -/
def pairSources : Sources where
  status n :=
    if n.uuid = "a" then .never
    else .after 3 (.answered (.ok ⟨.synced, "Synced", 1, "non-Primary", false, none, some 7⟩))
  seqno := some fun _ => .after 5 (.answered (.ok 12))
  disk := some fun n =>
    if n.uuid = "a" then .after 1 (.answered (.ok ⟨⟨1000, 100, 10, 10⟩, ⟨1000, 1000, 10, 10⟩⟩))
    else .after 1 (.crashed "boom")
  canary := none

theorem coherent_pair :
    pairConfig.checked = .ok ⟨pairConfig, .standard⟩ ∧
      pairConfig.quorum.quorum? = some .standard ∧
      ((CheckedConfig.mk pairConfig .standard).run pairSources (some 30000) "").snapshot.Coherent
        pairConfig .standard true ∧
      ((CheckedConfig.mk pairConfig .standard).run pairSources (some 30000) "").snapshot.verdict =
        .bootstrap "mysql/a" 12 := by
  have hchecked : pairConfig.checked = .ok ⟨pairConfig, .standard⟩ := by
    rw [checked_eq_ok_iff]
    exact ⟨⟨rfl, rfl, rfl, rfl, rfl, rfl, rfl, rfl, rfl, rfl, rfl, rfl⟩, rfl, rfl⟩
  obtain ⟨hquorum, hcoherent⟩ := coherent_run hchecked pairSources (some 30000) ""
  exact ⟨hchecked, hquorum, hcoherent, by decide +kernel⟩

end GaleraHealth
