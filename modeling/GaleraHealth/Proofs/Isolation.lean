import GaleraHealth.Proofs.Coherence

/-!
# One node does not touch the records of the others

In a run that is over before anything cancels it, a worker is decided by its own course alone, so
every record of the snapshot is a function of the sources of its own node:

* `outcome_eq_settled`: a slot that is filled before a cancellation holds what the course settles
  to, whenever the phase has begun. The agents of a later phase are not shifted by what an earlier
  phase took.
* `recovered_own_answers`: handing the answers of the agents back along the list gives every node
  the answer of its own agent, however many other nodes are asked about.
* `nodes_run_of_completes`, `disks_run_of_completes`: the records of a complete run, node by node.
* `filter_diskIssues`: the issues with a name are those of the one record with that identity.

`isolated_run` compares two complete runs in which one node behaves differently.
-/

namespace GaleraHealth

variable {α : Type}

/-! ### Workers that nothing cancels -/

/-- What a worker leaves in its slot when nothing cancels it. -/
def Course.settled (phase : Phase) (limit : Duration) (course : Course (Ending α)) :
    Except Failure α :=
  course.outcome phase limit none 0

/-- Without a cancellation it does not matter when a worker begins. -/
theorem fate_none_start (limit : Duration) (start : Nat) (course : Course (Ending α)) :
    (course.fate limit none start).2 = (course.fate limit none 0).2 := by
  cases course with
  | never => rfl
  | after n e =>
    simp only [Course.fate, earlier]
    by_cases hn : n ≤ limit.ticks
    · rw [if_pos (by omega), if_pos (by omega)]
    · rw [if_neg (by omega), if_neg (by omega)]

/-- A worker that is decided before a cancellation is decided as if there were none. -/
theorem fate_eq_of_lt {limit : Duration} {cancel start : Nat} {course : Course (Ending α)}
    (h : (course.fate limit (some cancel) start).1 < cancel) :
    course.fate limit (some cancel) start = course.fate limit none start := by
  have hearlier : course.fate limit (some cancel) start =
      earlier (max start cancel, .cancelled) (course.fate limit none start) := rfl
  rw [hearlier] at h ⊢
  unfold earlier at h ⊢
  split at h
  · -- the cancellation itself would be what decided the worker
    have hle : cancel ≤ max start cancel := Nat.le_max_right start cancel
    omega
  · rename_i hlater
    rw [if_neg hlater]

theorem outcome_eq_settled {phase : Phase} {limit : Duration} {cancel start : Nat}
    {course : Course (Ending α)} (h : (course.fate limit (some cancel) start).1 < cancel) :
    course.outcome phase limit (some cancel) start = course.settled phase limit := by
  rw [Course.settled, Course.outcome, Course.outcome, fate_eq_of_lt h, fate_none_start]

/-- No worker is decided after the end of its phase. -/
theorem fate_le_lastEnd {limit : Duration} {cancel : Option Nat} {start : Nat}
    {courses : List (Course (Ending α))} {course : Course (Ending α)} (h : course ∈ courses) :
    (course.fate limit cancel start).1 ≤ lastEnd start (fanOut limit cancel start courses) := by
  have hworker : ⟨(course.fate limit cancel start).1, (course.fate limit cancel start).2,
      !cancelledBy cancel start⟩ ∈ fanOut limit cancel start courses := List.mem_map_of_mem h
  exact endsAt_le_lastEnd start hworker

/-- A phase that is over before a cancellation leaves what its courses settle to. -/
theorem slots_of_lastEnd_lt {phase : Phase} {limit : Duration} {cancel start : Nat}
    {courses : List (Course (Ending α))}
    (h : lastEnd start (fanOut limit (some cancel) start courses) < cancel) :
    slots phase limit (fanOut limit (some cancel) start courses) =
      courses.map (Course.settled phase limit) := by
  rw [slots_fanOut]
  apply List.map_congr_left
  intro course hcourse
  exact outcome_eq_settled (Nat.lt_of_le_of_lt (fate_le_lastEnd hcourse) h)

/-! ### Records as functions of their nodes -/

/-- A report once the agent of its node has answered, if it was not live. -/
def NodeReport.withAnswer (r : NodeReport) (answer : Except Failure Int64) : NodeReport :=
  match r.failure? with
  | none => r
  | some f => ⟨r.node, .afterLookup f answer⟩

theorem node_withAnswer (r : NodeReport) (answer : Except Failure Int64) :
    (r.withAnswer answer).node = r.node := by
  unfold NodeReport.withAnswer
  split <;> rfl

/-- **Every node gets the answer of its own agent**, whoever else is asked about. -/
theorem recovered_own_answers (reports : List NodeReport) (answer : Node → Except Failure Int64) :
    recovered reports ((nodesToRecover reports).map answer) =
      reports.map fun r => r.withAnswer (answer r.node) := by
  induction reports with
  | nil => rfl
  | cons r rest ih =>
    rw [List.map_cons, ← ih]
    cases hr : r.isLive with
    | true =>
      rw [nodesToRecover_cons_live hr, recovered_cons_live hr]
      simp only [NodeReport.withAnswer, failure?_eq_none_iff.mpr hr]
    | false =>
      obtain ⟨f, hf⟩ := isLive_eq_false_iff.mp hr
      rw [nodesToRecover_cons_down hr, List.map_cons, recovered_cons_down hf]
      simp only [NodeReport.withAnswer, hf]

/-- What the live check of a node settles to. -/
def settledStatus (sources : Sources) (times : Timeouts) (n : Node) : NodeReport :=
  ⟨n, .ofResult ((sources.status n).settled .status times.nodeStatus)⟩

/-- What a run that nothing cancels reports of a node. -/
def settledReport (sources : Sources) (times : Timeouts) (n : Node) : NodeReport :=
  match sources.seqno.map fun source => source n with
  | none => settledStatus sources times n
  | some course => (settledStatus sources times n).withAnswer (course.settled .seqno times.agent)

/-- What a run that nothing cancels reports of the disks of a node. -/
def settledReading (times : Timeouts) (n : Node) (course : Course (Ending DiskPair)) :
    DiskReport :=
  ⟨n, .ofResult ((course.map (Ending.bind DiskPair.checked)).settled .disk times.diskAgent)⟩

theorem node_settledReport (sources : Sources) (times : Timeouts) (n : Node) :
    (settledReport sources times n).node = n := by
  unfold settledReport
  split
  · rfl
  · exact node_withAnswer _ _

theorem reports_checkStatuses_of_lt {source : Node → Course (Ending NodeStatus)}
    {limit : Duration} {cancel start : Nat} {nodes : List Node}
    (h : (checkStatuses source limit (some cancel) start nodes).endsAt < cancel) :
    (checkStatuses source limit (some cancel) start nodes).reports =
      nodes.map fun n => ⟨n, .ofResult ((source n).settled .status limit)⟩ := by
  rw [reports_checkStatuses]
  apply List.map_congr_left
  intro n hn
  rw [outcome_eq_settled (Nat.lt_of_le_of_lt (fate_le_lastEnd (List.mem_map_of_mem hn)) h)]

theorem reports_recoverSeqnos_of_lt {source : Node → Course (Ending Int64)} {limit : Duration}
    {cancel start : Nat} {reports : List NodeReport}
    (h : (recoverSeqnos source limit (some cancel) start reports).endsAt < cancel) :
    (recoverSeqnos source limit (some cancel) start reports).reports =
      reports.map fun r => r.withAnswer ((source r.node).settled .seqno limit) := by
  rw [← recovered_own_answers reports fun n => (source n).settled .seqno limit, recoverSeqnos,
    slots_of_lastEnd_lt h, List.map_map]
  rfl

theorem reports_checkDisks_of_lt {source : Node → Course (Ending DiskPair)} {limit : Duration}
    {cancel start : Nat} {nodes : List Node}
    (h : (checkDisks source limit (some cancel) start nodes).endsAt < cancel) :
    (checkDisks source limit (some cancel) start nodes).reports =
      nodes.map fun n => ⟨n, .ofResult ((diskCourse source n).settled .disk limit)⟩ := by
  rw [reports_checkDisks]
  apply List.map_congr_left
  intro n hn
  have hend : ((diskCourse source n).fate limit (some cancel) start).1 < cancel :=
    Nat.lt_of_le_of_lt (fate_le_lastEnd (List.mem_map_of_mem hn)) h
  rw [outcome_eq_settled hend]

/-! ### The records of a complete run -/

namespace CheckedConfig

/-- A run that is over before anything cancels it, from outside or by its own limit. -/
def Completes (c : CheckedConfig) (sources : Sources) (outside : Option Nat)
    (takenAt : String) : Prop :=
  (c.run sources outside takenAt).endsAt < cancelTick c.config.timeouts.run outside

variable {c : CheckedConfig} {sources : Sources} {outside : Option Nat} {takenAt : String}

/-- **The reports of a complete run**, each a function of what its own node's sources do. -/
theorem nodes_run_of_completes (h : c.Completes sources outside takenAt) :
    (c.run sources outside takenAt).snapshot.nodes =
      c.config.nodes.map (settledReport sources c.config.timeouts) := by
  unfold Completes run at h
  unfold run
  simp only [Nat.max_lt] at h
  obtain ⟨⟨hnodes, -⟩, -⟩ := h
  cases hseqno : sources.seqno with
  | none =>
    simp only [hseqno, Option.map_none, Option.getD_none] at hnodes ⊢
    rw [reports_checkStatuses_of_lt hnodes]
    apply List.map_congr_left
    intro n _
    rw [settledReport, hseqno]
    rfl
  | some source =>
    simp only [hseqno, Option.map_some, Option.getD_some] at hnodes ⊢
    -- the lookups begin when the last live check is decided, so that was in time as well
    have hlive := Nat.lt_of_le_of_lt (le_lastEnd _ _) hnodes
    rw [reports_recoverSeqnos_of_lt hnodes, reports_checkStatuses_of_lt hlive, List.map_map]
    apply List.map_congr_left
    intro n _
    rw [settledReport, hseqno]
    rfl

/-- **The disk readings of a complete run**, each a function of what its own node's agent does. -/
theorem disks_run_of_completes (h : c.Completes sources outside takenAt) :
    (c.run sources outside takenAt).snapshot.disks =
      match sources.disk with
      | none => []
      | some source =>
        c.config.nodes.map fun n => settledReading c.config.timeouts n (source n) := by
  unfold Completes run at h
  unfold run
  simp only [Nat.max_lt] at h
  obtain ⟨⟨-, hdisks⟩, -⟩ := h
  cases hdisk : sources.disk with
  | none => rfl
  | some source =>
    simp only [hdisk, Option.map_some, Option.getD_some] at hdisks ⊢
    exact reports_checkDisks_of_lt hdisks

theorem diskIssues_run : (c.run sources outside takenAt).snapshot.diskIssues =
    diskIssues c.config.database.thresholds (c.run sources outside takenAt).snapshot.disks :=
  rfl

end CheckedConfig

/-! ### The issues that name one node -/

theorem filter_issues (t : Thresholds) (r : DiskReport) (name : String) :
    (r.issues t).filter (fun i => i.node = name) =
      if r.node.identity = name then r.issues t else [] := by
  have hnode : ∀ i ∈ r.issues t, i.node = r.node.identity := by
    intro i hi
    obtain ⟨p, -, hname, -⟩ := (mem_issues_iff t r i).mp hi
    exact hname
  by_cases hname : r.node.identity = name
  · rw [if_pos hname, List.filter_eq_self]
    intro i hi
    rw [hnode i hi, hname, decide_eq_true rfl]
  · rw [if_neg hname, List.filter_eq_nil_iff]
    intro i hi
    rw [hnode i hi, decide_eq_true_eq]
    exact hname

/-- The issues with a name are those of the records with that identity. -/
theorem filter_diskIssues (t : Thresholds) (reports : List DiskReport) (name : String) :
    (diskIssues t reports).filter (fun i => i.node = name) =
      diskIssues t (reports.filter fun r => r.node.identity = name) := by
  induction reports with
  | nil => rfl
  | cons r rest ih =>
    simp only [diskIssues] at ih ⊢
    rw [List.flatMap_cons, List.filter_append, ih, filter_issues]
    by_cases hname : r.node.identity = name
    · rw [if_pos hname, List.filter_cons_of_pos (by simpa using hname), List.flatMap_cons]
    · rw [if_neg hname, List.filter_cons_of_neg (by simpa using hname), List.nil_append]

/-- Where identities are distinct, the issues with the name of a record are its own. -/
theorem filter_diskIssues_of_mem (t : Thresholds) {reports : List DiskReport}
    (h : ((reports.map DiskReport.node).map Node.identity).Nodup) {r : DiskReport}
    (hr : r ∈ reports) :
    (diskIssues t reports).filter (fun i => i.node = r.node.identity) = r.issues t := by
  have hone : reports.filter (fun x => x.node.identity = r.node.identity) = [r] :=
    isOnly_of_mem h hr
  rw [filter_diskIssues, hone, diskIssues, List.flatMap_singleton]

/-! ### Two runs -/

/-- Everything that belongs to a node behaves alike in two runs. -/
structure Sources.SameFor (s t : Sources) (n : Node) : Prop where
  status : s.status n = t.status n
  seqno : s.seqno.map (fun source => source n) = t.seqno.map fun source => source n
  disk : s.disk.map (fun source => source n) = t.disk.map fun source => source n

/-- Everything behaves alike in two runs, but for what belongs to the node at one place. -/
structure Sources.SameExcept (nodes : List Node) (place : Nat) (s t : Sources) : Prop where
  /-- Disk agents are asked in both runs or in neither. -/
  asksDisks : s.disk.isSome = t.disk.isSome
  others : ∀ (i : Nat) (n : Node), nodes[i]? = some n → i ≠ place → s.SameFor t n

/-- Two snapshots say the same about the node at a place: of its database, of its disks and of
the issues with these. -/
structure Snapshot.SameAbout (place : Nat) (n : Node) (a b : Snapshot) : Prop where
  report : ∃ r, r.node = n ∧ a.nodes[place]? = some r ∧ b.nodes[place]? = some r
  reading : (∀ d, a.disks[place]? = some d → d.node = n) ∧ a.disks[place]? = b.disks[place]?
  issues : a.diskIssues.filter (fun i => i.node = n.identity) =
    b.diskIssues.filter fun i => i.node = n.identity

theorem settledReport_congr {s t : Sources} {n : Node} (h : s.SameFor t n) (times : Timeouts) :
    settledReport s times n = settledReport t times n := by
  have hstatus : settledStatus s times n = settledStatus t times n := by
    rw [settledStatus, settledStatus, h.status]
  rw [settledReport, settledReport, h.seqno, hstatus]

namespace CheckedConfig

variable {c : CheckedConfig} {s : Sources} {outside : Option Nat} {takenAt : String} {place : Nat}
  {n : Node}

/-- The record of a node, in a complete run, at the place of the node. -/
theorem getElem?_nodes_run (h : c.Completes s outside takenAt)
    (hn : c.config.nodes[place]? = some n) :
    (c.run s outside takenAt).snapshot.nodes[place]? =
      some (settledReport s c.config.timeouts n) := by
  rw [nodes_run_of_completes h, List.getElem?_map, hn, Option.map_some]

/-- The disk reading of a node, in a complete run, at the place of the node. -/
theorem getElem?_disks_run (h : c.Completes s outside takenAt)
    (hn : c.config.nodes[place]? = some n) :
    (c.run s outside takenAt).snapshot.disks[place]? =
      (s.disk.map fun source => source n).map (settledReading c.config.timeouts n) := by
  rw [disks_run_of_completes h]
  cases s.disk with
  | none => rfl
  | some source =>
    rw [List.getElem?_map, hn]
    rfl

/-- The issues that name a node, in a complete run, are those of its own reading. -/
theorem filter_diskIssues_run (hpasses : c.config.Passes) (h : c.Completes s outside takenAt)
    (hn : c.config.nodes[place]? = some n) :
    (c.run s outside takenAt).snapshot.diskIssues.filter (fun i => i.node = n.identity) =
      match s.disk.map fun source => source n with
      | none => []
      | some course =>
        (settledReading c.config.timeouts n course).issues c.config.database.thresholds := by
  have hdistinct : (((c.run s outside takenAt).snapshot.disks.map DiskReport.node).map
      Node.identity).Nodup := by
    rw [c.disks_run]
    split
    · exact hpasses.nodup_identities
    · exact List.nodup_nil
  have hreading := getElem?_disks_run h hn
  rw [diskIssues_run]
  cases hdisk : s.disk with
  | none =>
    rw [disks_run_of_completes h, hdisk]
    rfl
  | some source =>
    rw [hdisk, Option.map_some, Option.map_some] at hreading
    exact filter_diskIssues_of_mem _ hdistinct (List.mem_of_getElem? hreading)

end CheckedConfig

/-- **One node does not touch the records of the others.** In two runs of one accepted configuration
that are over before anything cancels them, and in which only the node at one place behaves
differently, the snapshots have as many records, and they say the same about every other node:
whatever the database and the agents of that node do in either run. -/
theorem isolated_run {config : ClusterConfig} {c : CheckedConfig} (hc : config.checked = .ok c)
    {s t : Sources} {place : Nat} (hsame : s.SameExcept config.nodes place t)
    {outside outside' : Option Nat} {takenAt takenAt' : String}
    (hs : c.Completes s outside takenAt) (ht : c.Completes t outside' takenAt') :
    (c.run s outside takenAt).snapshot.nodes.length =
        (c.run t outside' takenAt').snapshot.nodes.length ∧
      (c.run s outside takenAt).snapshot.disks.length =
        (c.run t outside' takenAt').snapshot.disks.length ∧
      ∀ (i : Nat) (n : Node), config.nodes[i]? = some n → i ≠ place →
        (c.run s outside takenAt).snapshot.SameAbout i n
          (c.run t outside' takenAt').snapshot := by
  obtain ⟨hpasses, rfl, -⟩ := (checked_eq_ok_iff config c).mp hc
  refine ⟨?_, ?_, ?_⟩
  · rw [CheckedConfig.nodes_run_of_completes hs, CheckedConfig.nodes_run_of_completes ht,
      List.length_map, List.length_map]
  · have hdisks := congrArg List.length (c.disks_run s outside takenAt)
    have hdisks' := congrArg List.length (c.disks_run t outside' takenAt')
    rw [List.length_map] at hdisks hdisks'
    rw [hdisks, hdisks', hsame.asksDisks]
  · intro i n hn hi
    have hown := hsame.others i n hn hi
    refine ⟨?_, ⟨?_, ?_⟩, ?_⟩
    · refine ⟨settledReport s c.config.timeouts n, node_settledReport s _ n,
        CheckedConfig.getElem?_nodes_run hs hn, ?_⟩
      rw [CheckedConfig.getElem?_nodes_run ht hn, settledReport_congr hown]
    · intro d hd
      rw [CheckedConfig.getElem?_disks_run hs hn] at hd
      obtain ⟨course, -, rfl⟩ := Option.map_eq_some_iff.mp hd
      rfl
    · rw [CheckedConfig.getElem?_disks_run hs hn, CheckedConfig.getElem?_disks_run ht hn,
        hown.disk]
    · rw [CheckedConfig.filter_diskIssues_run hpasses hs hn,
        CheckedConfig.filter_diskIssues_run hpasses ht hn, hown.disk]

/-- The two nodes again, but the database of the second crashes, and its agents never answer. -/
def pairSourcesDown : Sources where
  status n := if n.uuid = "a" then .never else .after 3 (.crashed "boom")
  seqno := some fun n => if n.uuid = "a" then .after 5 (.answered (.ok 12)) else .never
  disk := some fun n =>
    if n.uuid = "a" then .after 1 (.answered (.ok ⟨⟨1000, 100, 10, 10⟩, ⟨1000, 1000, 10, 10⟩⟩))
    else .never
  canary := none

theorem isolated_pair :
    let c := CheckedConfig.mk pairConfig .standard
    let n : Node := ⟨"10.0.0.1", "mysql", "a", none⟩
    (pairConfig.checked = .ok c ∧ pairSources.SameExcept pairConfig.nodes 1 pairSourcesDown ∧
        c.Completes pairSources none "" ∧ c.Completes pairSourcesDown (some 55000) "later") ∧
      pairConfig.nodes[0]? = some n ∧
      (c.run pairSources none "").snapshot.SameAbout 0 n
        (c.run pairSourcesDown (some 55000) "later").snapshot := by
  intro c n
  have hchecked : pairConfig.checked = .ok c := by
    rw [checked_eq_ok_iff]
    exact ⟨⟨rfl, rfl, rfl, rfl, rfl, rfl, rfl, rfl, rfl, rfl, rfl, rfl⟩, rfl, rfl⟩
  have hsame : pairSources.SameExcept pairConfig.nodes 1 pairSourcesDown := by
    refine ⟨rfl, ?_⟩
    intro i m hm hi
    match i with
    | 0 =>
      cases hm
      exact ⟨rfl, rfl, rfl⟩
    | 1 => exact absurd rfl hi
    | i + 2 => cases hm
  have hs : c.Completes pairSources none "" := by
    unfold CheckedConfig.Completes
    decide +kernel
  have ht : c.Completes pairSourcesDown (some 55000) "later" := by
    unfold CheckedConfig.Completes
    decide +kernel
  obtain ⟨-, -, hothers⟩ := isolated_run hchecked hsame hs ht
  exact ⟨⟨hchecked, hsame, hs, ht⟩, rfl, hothers 0 n rfl (by decide)⟩

end GaleraHealth
