import GaleraHealth.Proofs.CancelledRun
import GaleraHealth.Proofs.Coherence

/-!
# Runs with a clock are orders of events

`CheckedConfig.run` knows the tick at which everything happens, `RunState.run` only the order. As
for a single phase, whoever looks at every worker of every phase at every tick sees a run with a
clock as one of the orders:

* `run_ofStatus`, `run_ofSeqno`, `run_ofDisk`: the events of one phase leave the others alone.
* `run_checksTimeline`: the live checks and the disk checks side by side, tick by tick.
* `run_lookupsTimeline`: the same with the lookups beside them.
* `exists_order`: every run with a clock ends as some order of events does.

So what holds in any order holds with a clock: `asks_nobody_once_cancelled` says that a run that is
cancelled asks nobody any more, and what becomes of one that is cancelled from the start.
-/

namespace GaleraHealth

/-! ### The events of a phase within a run -/

namespace RunEvent

def ofStatus : Event NodeStatus → RunEvent
  | .cancelled => .cancelled
  | .looked worker f => .status worker f

def ofSeqno : Event Int64 → RunEvent
  | .cancelled => .cancelled
  | .looked worker f => .seqno worker f

def ofDisk : Event DiskPair → RunEvent
  | .cancelled => .cancelled
  | .looked worker f => .disk worker f

end RunEvent

namespace RunState

theorem run_ofStatus (events : List (Event NodeStatus)) (cancelled : Bool)
    (status : List (Member NodeStatus)) (seqno : Option (List (Member Int64)))
    (disk : List (Member DiskPair)) :
    run ⟨cancelled, status, seqno, disk⟩ (events.map .ofStatus) =
      ⟨(PhaseState.run ⟨cancelled, status⟩ events).cancelled,
        (PhaseState.run ⟨cancelled, status⟩ events).members, seqno, disk⟩ := by
  induction events generalizing cancelled status with
  | nil => rfl
  | cons e es ih =>
    cases e with
    | cancelled => exact ih true status
    | looked worker f => exact ih cancelled (lookAt cancelled worker f status)

theorem run_ofSeqno (events : List (Event Int64)) (cancelled : Bool)
    (status : List (Member NodeStatus)) (seqno : List (Member Int64))
    (disk : List (Member DiskPair)) :
    run ⟨cancelled, status, some seqno, disk⟩ (events.map .ofSeqno) =
      ⟨(PhaseState.run ⟨cancelled, seqno⟩ events).cancelled, status,
        some (PhaseState.run ⟨cancelled, seqno⟩ events).members, disk⟩ := by
  induction events generalizing cancelled seqno with
  | nil => rfl
  | cons e es ih =>
    cases e with
    | cancelled => exact ih true seqno
    | looked worker f => exact ih cancelled (lookAt cancelled worker f seqno)

theorem run_ofDisk (events : List (Event DiskPair)) (cancelled : Bool)
    (status : List (Member NodeStatus)) (seqno : Option (List (Member Int64)))
    (disk : List (Member DiskPair)) :
    run ⟨cancelled, status, seqno, disk⟩ (events.map .ofDisk) =
      ⟨(PhaseState.run ⟨cancelled, disk⟩ events).cancelled, status, seqno,
        (PhaseState.run ⟨cancelled, disk⟩ events).members⟩ := by
  induction events generalizing cancelled disk with
  | nil => rfl
  | cons e es ih =>
    cases e with
    | cancelled => exact ih true disk
    | looked worker f => exact ih cancelled (lookAt cancelled worker f disk)

/-! ### The events of a run, tick by tick -/

section Timeline

variable (times : Timeouts) (cancel : Option Nat)
  (statuses : List (Course (Ending NodeStatus))) (disks : List (Course (Ending DiskPair)))

/-- What happens in one tick of the live checks and the disk checks. -/
def checksMoment (tick : Nat) : List RunEvent :=
  (moment times.nodeStatus cancel 0 statuses tick).map .ofStatus ++
    (moment times.diskAgent cancel 0 disks tick).map .ofDisk

/-- What happens in the first so many ticks of a run, up to the lookups. -/
def checksTimeline : Nat → List RunEvent
  | 0 => []
  | tick + 1 => checksTimeline tick ++ checksMoment times cancel statuses disks tick

/-- Where a run is cancelled from the start, this is its first event. -/
theorem checksTimeline_of_cancelled (h : cancelledBy cancel 0 = true) (tick : Nat) :
    ∃ rest, checksTimeline times cancel statuses disks (tick + 1) = .cancelled :: rest := by
  induction tick with
  | zero =>
    refine ⟨(looks times.nodeStatus 0 0 statuses).map .ofStatus ++
      (moment times.diskAgent cancel 0 disks 0).map .ofDisk, ?_⟩
    show checksMoment times cancel statuses disks 0 = _
    rw [checksMoment, moment, if_pos h]
    rfl
  | succ tick ih =>
    obtain ⟨rest, hrest⟩ := ih
    refine ⟨rest ++ checksMoment times cancel statuses disks (tick + 1), ?_⟩
    rw [checksTimeline, hrest, List.cons_append]

/-- What happens in so many ticks after the lookups began at a tick, when everybody else had been
looked at in that tick. -/
def lookupsTimeline (lookups : List (Course (Ending Int64))) (begins : Nat) :
    Nat → List RunEvent
  | 0 => []
  | ticks + 1 => lookupsTimeline lookups begins ticks ++
      ((moment times.agent cancel begins lookups ticks).map .ofSeqno ++
        checksMoment times cancel statuses disks (begins + 1 + ticks))

/-- What happens in a run with lookups, up to so many ticks after they began. -/
def wholeTimeline (lookups : List (Course (Ending Int64))) (begins ticks : Nat) :
    List RunEvent :=
  checksTimeline times cancel statuses disks (begins + 1) ++
    .seqnosBegin :: lookupsTimeline times cancel statuses disks lookups begins ticks

variable {statuses disks} {nodes diskNodes : List Node}
  (hstatuses : statuses.length = nodes.length) (hdisks : disks.length = diskNodes.length)
include hstatuses hdisks

theorem run_checksMoment (tick : Nat) {cancelled : Bool}
    (hc : cancelled = true → cancelledBy cancel tick = true)
    (seqno : Option (List (Member Int64))) :
    run ⟨cancelled, membersAt times.nodeStatus cancel 0 nodes statuses tick, seqno,
        membersAt times.diskAgent cancel 0 diskNodes disks tick⟩
        (checksMoment times cancel statuses disks tick) =
      ⟨cancelledBy cancel tick, membersAt times.nodeStatus cancel 0 nodes statuses (tick + 1),
        seqno, membersAt times.diskAgent cancel 0 diskNodes disks (tick + 1)⟩ := by
  have htick : 0 + tick = tick := Nat.zero_add tick
  rw [← htick] at hc
  have hstatus := run_moment_membersAt times.nodeStatus cancel 0 hstatuses tick hc
  have hdisk := run_moment_membersAt times.diskAgent cancel 0 hdisks tick
    (fun h : cancelledBy cancel (0 + tick) = true => h)
  rw [htick] at hstatus hdisk
  rw [checksMoment, run_append, run_ofStatus, hstatus, run_ofDisk, hdisk]

/-- **The live checks and the disk checks, tick by tick.** -/
theorem run_checksTimeline (ticks : Nat) :
    (start nodes diskNodes).run (checksTimeline times cancel statuses disks ticks) =
      ⟨decide (0 < ticks) && cancelledBy cancel (ticks - 1),
        membersAt times.nodeStatus cancel 0 nodes statuses ticks, none,
        membersAt times.diskAgent cancel 0 diskNodes disks ticks⟩ := by
  induction ticks with
  | zero =>
    rw [membersAt_zero times.nodeStatus cancel 0 hstatuses,
      membersAt_zero times.diskAgent cancel 0 hdisks]
    rfl
  | succ tick ih =>
    rw [checksTimeline, run_append, ih, run_checksMoment times cancel hstatuses hdisks]
    · simp only [Nat.add_sub_cancel, decide_eq_true (Nat.succ_pos tick), Bool.true_and]
    · intro hc
      rw [Bool.and_eq_true] at hc
      exact cancelledBy_mono (by omega) hc.2

theorem run_checksTimeline_succ (tick : Nat) :
    (start nodes diskNodes).run (checksTimeline times cancel statuses disks (tick + 1)) =
      ⟨cancelledBy cancel tick, membersAt times.nodeStatus cancel 0 nodes statuses (tick + 1),
        none, membersAt times.diskAgent cancel 0 diskNodes disks (tick + 1)⟩ := by
  rw [run_checksTimeline times cancel hstatuses hdisks, decide_eq_true (Nat.succ_pos tick),
    Bool.true_and, Nat.add_sub_cancel]

/-- **The lookups and what goes on beside them, tick by tick.** -/
theorem run_lookupsTimeline {lookups : List (Course (Ending Int64))} {down : List Node}
    (hlookups : lookups.length = down.length) (begins ticks : Nat) :
    run ⟨cancelledBy cancel begins,
        membersAt times.nodeStatus cancel 0 nodes statuses (begins + 1),
        some (down.map .waiting),
        membersAt times.diskAgent cancel 0 diskNodes disks (begins + 1)⟩
        (lookupsTimeline times cancel statuses disks lookups begins ticks) =
      ⟨cancelledBy cancel (begins + ticks),
        membersAt times.nodeStatus cancel 0 nodes statuses (begins + 1 + ticks),
        some (membersAt times.agent cancel begins down lookups ticks),
        membersAt times.diskAgent cancel 0 diskNodes disks (begins + 1 + ticks)⟩ := by
  induction ticks with
  | zero =>
    rw [membersAt_zero times.agent cancel begins hlookups]
    rfl
  | succ ticks ih =>
    have hlater : begins + (ticks + 1) = begins + 1 + ticks := by omega
    have hseqno := run_moment_membersAt times.agent cancel begins hlookups ticks
      (fun h : cancelledBy cancel (begins + ticks) = true => h)
    rw [lookupsTimeline, run_append, ih, run_append, run_ofSeqno, hseqno,
      run_checksMoment times cancel hstatuses hdisks]
    · rw [hlater]
      rfl
    · intro hc
      exact cancelledBy_mono (by omega) hc

/-- **The whole of a run with lookups**, which begin in the tick in which the last live check is
decided. -/
theorem run_wholeTimeline {lookups : List (Course (Ending Int64))} {down : List Node}
    (hlookups : lookups.length = down.length) {begins : Nat}
    (hdone : allDecided (membersAt times.nodeStatus cancel 0 nodes statuses (begins + 1)) = true)
    (hdown : nodesDown (membersAt times.nodeStatus cancel 0 nodes statuses (begins + 1)) = down)
    (ticks : Nat) :
    (start nodes diskNodes).run (wholeTimeline times cancel statuses disks lookups begins ticks) =
      ⟨cancelledBy cancel (begins + ticks),
        membersAt times.nodeStatus cancel 0 nodes statuses (begins + 1 + ticks),
        some (membersAt times.agent cancel begins down lookups ticks),
        membersAt times.diskAgent cancel 0 diskNodes disks (begins + 1 + ticks)⟩ := by
  rw [wholeTimeline, run_append, run_checksTimeline_succ times cancel hstatuses hdisks, run_cons,
    step_seqnosBegin hdone rfl, hdown]
  exact run_lookupsTimeline times cancel hstatuses hdisks hlookups begins ticks

end Timeline

/-! ### What decided workers tell -/

variable {α : Type}

theorem map_node_membersOf {nodes : List Node} {workers : List (Worker α)}
    (h : workers.length = nodes.length) : (membersOf nodes workers).map Member.node = nodes := by
  apply List.ext_getElem
  · simp [membersOf, h]
  · intro i h₁ h₂
    simp [membersOf]

theorem begun_membersOf (nodes : List Node) (workers : List (Worker α)) :
    begun (membersOf nodes workers) = askedNodes nodes workers := by
  induction nodes generalizing workers with
  | nil => rfl
  | cons n rest ih =>
    cases workers with
    | nil => rfl
    | cons w workers =>
      have hrest := ih workers
      simp only [begun, askedNodes] at hrest
      cases hw : w.asked with
      | true => simpa [begun, askedNodes, membersOf, hw] using hrest
      | false => simpa [begun, askedNodes, membersOf, hw] using hrest

/-- A node is down after its live check where its report is not live. -/
theorem nodesDown_membersOf (limit : Duration) (nodes : List Node)
    (workers : List (Worker NodeStatus)) : nodesDown (membersOf nodes workers) =
      nodesToRecover (statusReports nodes (slots .status limit workers)) := by
  induction nodes generalizing workers with
  | nil => rfl
  | cons n rest ih =>
    cases workers with
    | nil => rfl
    | cons w workers =>
      obtain ⟨endsAt, fate, asked⟩ := w
      cases fate with
      | cancelled => exact congrArg (n :: ·) (ih workers)
      | expired => exact congrArg (n :: ·) (ih workers)
      | ended e =>
        cases e with
        | crashed message => exact congrArg (n :: ·) (ih workers)
        | answered r =>
          cases r with
          | error f => exact congrArg (n :: ·) (ih workers)
          | ok status => exact ih workers

end RunState

/-! ### Runs of a configuration -/

/-- Every check that a run has begun: in which phase, and of which node. -/
def Asked.checks (a : Asked) : List (Phase × Node) :=
  a.status.map (.status, ·) ++ (a.seqno.getD []).map (.seqno, ·) ++
    (a.disk.getD []).map (.disk, ·)

/-- A run that takes its events in some order says what a run with a clock says. -/
structure RunState.EndsAs (times : Timeouts) (s : RunState) (r : Run) : Prop where
  nodes : s.reports times = r.snapshot.nodes
  disks : s.readings times = r.snapshot.disks
  asked : s.asked = r.asked.checks

namespace CheckedConfig

variable (c : CheckedConfig) (sources : Sources)

/-- The nodes whose disks a run checks. -/
def diskNodes : List Node := if sources.disk.isSome then c.config.nodes else []

/-- The courses of the disk checks of a run. -/
def diskCourses : List (Course (Ending DiskPair)) :=
  match sources.disk with
  | none => []
  | some source => c.config.nodes.map (diskCourse source)

/-- A run before its first event. -/
def start : RunState := .start c.config.nodes (c.diskNodes sources)

theorem length_diskCourses : (c.diskCourses sources).length = (c.diskNodes sources).length := by
  unfold diskCourses diskNodes
  cases sources.disk with
  | none => rfl
  | some source => exact List.length_map _

/-- The workers of the live checks. -/
def liveWorkers (cancel : Option Nat) : List (Worker NodeStatus) :=
  fanOut c.config.timeouts.nodeStatus cancel 0 (c.config.nodes.map sources.status)

/-- The workers of the disk checks. -/
def diskWorkers (cancel : Option Nat) : List (Worker DiskPair) :=
  fanOut c.config.timeouts.diskAgent cancel 0 (c.diskCourses sources)

theorem length_liveWorkers (cancel : Option Nat) :
    (c.liveWorkers sources cancel).length = c.config.nodes.length := by
  rw [liveWorkers, length_fanOut, List.length_map]

theorem length_diskWorkers (cancel : Option Nat) :
    (c.diskWorkers sources cancel).length = (c.diskNodes sources).length := by
  rw [diskWorkers, length_fanOut, length_diskCourses]

/-- The last tick of the live checks. The lookups begin in it. -/
def liveEnd (cancel : Option Nat) : Nat := lastEnd 0 (c.liveWorkers sources cancel)

/-- The nodes whose galera agents are asked. -/
def downNodes (cancel : Option Nat) : List Node :=
  nodesToRecover (statusReports c.config.nodes
    (slots .status c.config.timeouts.nodeStatus (c.liveWorkers sources cancel)))

/-- The workers of the lookups. -/
def lookupWorkers (source : Node → Course (Ending Int64)) (cancel : Option Nat) :
    List (Worker Int64) :=
  fanOut c.config.timeouts.agent cancel (c.liveEnd sources cancel)
    ((c.downNodes sources cancel).map source)

theorem length_lookupWorkers (source : Node → Course (Ending Int64)) (cancel : Option Nat) :
    (c.lookupWorkers sources source cancel).length = (c.downNodes sources cancel).length := by
  rw [lookupWorkers, length_fanOut, List.length_map]

/-- A run whose workers are all decided. -/
def finished (cancelled : Bool) (cancel : Option Nat) : RunState where
  cancelled := cancelled
  status := membersOf c.config.nodes (c.liveWorkers sources cancel)
  seqno := sources.seqno.map fun source =>
    membersOf (c.downNodes sources cancel) (c.lookupWorkers sources source cancel)
  disk := membersOf (c.diskNodes sources) (c.diskWorkers sources cancel)

theorem over_finished (cancelled : Bool) (cancel : Option Nat) :
    (c.finished sources cancelled cancel).Over sources.seqno.isSome where
  status := allDecided_membersOf (c.length_liveWorkers sources cancel)
  begun := Option.isSome_map
  seqno := by
    intro ms hms
    obtain ⟨source, -, rfl⟩ := Option.map_eq_some_iff.mp hms
    exact allDecided_membersOf (c.length_lookupWorkers sources source cancel)
  disk := allDecided_membersOf (c.length_diskWorkers sources cancel)

theorem liveReports_finished (cancelled : Bool) (cancel : Option Nat) :
    (c.finished sources cancelled cancel).liveReports c.config.timeouts =
      statusReports c.config.nodes
        (slots .status c.config.timeouts.nodeStatus (c.liveWorkers sources cancel)) := by
  have hlength := c.length_liveWorkers sources cancel
  rw [RunState.liveReports, finished, RunState.map_node_membersOf hlength,
    memberResults_membersOf _ _ hlength]

theorem readings_finished (cancelled : Bool) (cancel : Option Nat) :
    (c.finished sources cancelled cancel).readings c.config.timeouts =
      diskReports (c.diskNodes sources)
        (slots .disk c.config.timeouts.diskAgent (c.diskWorkers sources cancel)) := by
  have hlength := c.length_diskWorkers sources cancel
  rw [RunState.readings, finished, RunState.map_node_membersOf hlength,
    memberResults_membersOf _ _ hlength]

variable (outside : Option Nat) (takenAt : String)

/-- When a run of this configuration is cancelled. -/
def cancelAt : Option Nat := some (cancelTick c.config.timeouts.run outside)

theorem nodes_finished (cancelled : Bool) :
    (c.finished sources cancelled (c.cancelAt outside)).reports c.config.timeouts =
      (c.run sources outside takenAt).snapshot.nodes := by
  have hlive := c.liveReports_finished sources cancelled (c.cancelAt outside)
  rw [RunState.reports, hlive]
  unfold finished run
  cases sources.seqno with
  | none => rfl
  | some source =>
    show recovered _ (memberResults .seqno c.config.timeouts.agent (membersOf _
      (c.lookupWorkers sources source (c.cancelAt outside)))) = _
    rw [memberResults_membersOf _ _ (c.length_lookupWorkers sources source _)]
    rfl

theorem disks_finished (cancelled : Bool) :
    (c.finished sources cancelled (c.cancelAt outside)).readings c.config.timeouts =
      (c.run sources outside takenAt).snapshot.disks := by
  rw [readings_finished]
  unfold run diskWorkers diskCourses diskNodes
  cases sources.disk with
  | none => rfl
  | some source => rfl

theorem asked_finished (cancelled : Bool) :
    (c.finished sources cancelled (c.cancelAt outside)).asked =
      (c.run sources outside takenAt).asked.checks := by
  have hdisk : (c.run sources outside takenAt).asked.disk.getD [] =
      askedNodes (c.diskNodes sources) (c.diskWorkers sources (c.cancelAt outside)) := by
    unfold run diskWorkers diskCourses diskNodes
    cases sources.disk with
    | none => rfl
    | some source => rfl
  have hseqno : RunState.begun
      ((c.finished sources cancelled (c.cancelAt outside)).seqno.getD []) =
        (c.run sources outside takenAt).asked.seqno.getD [] := by
    unfold finished run
    cases sources.seqno with
    | none => rfl
    | some source => exact RunState.begun_membersOf _ _
  rw [RunState.asked, hseqno, Asked.checks, hdisk]
  simp only [finished, RunState.begun_membersOf]
  rfl

theorem endsAs_finished (cancelled : Bool) :
    (c.finished sources cancelled (c.cancelAt outside)).EndsAs c.config.timeouts
      (c.run sources outside takenAt) where
  nodes := c.nodes_finished sources outside takenAt cancelled
  disks := c.disks_finished sources outside takenAt cancelled
  asked := c.asked_finished sources outside takenAt cancelled

theorem liveMembers_of_lt {cancel : Option Nat} {ticks : Nat}
    (h : c.liveEnd sources cancel < ticks) :
    membersAt c.config.timeouts.nodeStatus cancel 0 c.config.nodes
        (c.config.nodes.map sources.status) ticks =
      membersOf c.config.nodes (c.liveWorkers sources cancel) :=
  membersAt_of_lastEnd_lt (by rwa [Nat.zero_add])

theorem diskMembers_of_lt {cancel : Option Nat} {ticks : Nat}
    (h : lastEnd 0 (c.diskWorkers sources cancel) < ticks) :
    membersAt c.config.timeouts.diskAgent cancel 0 (c.diskNodes sources) (c.diskCourses sources)
        ticks = membersOf (c.diskNodes sources) (c.diskWorkers sources cancel) :=
  membersAt_of_lastEnd_lt (by rwa [Nat.zero_add])

/-- Looking at every worker at every tick, one comes to the end of the run. -/
theorem exists_run_eq_finished (cancel : Option Nat) : ∃ events cancelled,
    (c.start sources).run events = c.finished sources cancelled cancel ∧
      (cancelledBy cancel 0 = true → ∃ rest, events = .cancelled :: rest) := by
  have hstatuses : (c.config.nodes.map sources.status).length = c.config.nodes.length :=
    List.length_map _
  have hdisks := c.length_diskCourses sources
  cases hseqno : sources.seqno with
  | none =>
    -- the live checks and the disk checks are all there is
    obtain ⟨last, hlast⟩ : ∃ last, last =
        max (c.liveEnd sources cancel) (lastEnd 0 (c.diskWorkers sources cancel)) := ⟨_, rfl⟩
    refine ⟨RunState.checksTimeline c.config.timeouts cancel
      (c.config.nodes.map sources.status) (c.diskCourses sources) (last + 1),
      cancelledBy cancel last, ?_,
      fun h => RunState.checksTimeline_of_cancelled c.config.timeouts cancel _ _ h last⟩
    rw [start, RunState.run_checksTimeline_succ _ _ hstatuses hdisks,
      c.liveMembers_of_lt sources (by omega), c.diskMembers_of_lt sources (by omega), finished,
      hseqno]
    rfl
  | some source =>
    -- the lookups begin in the last tick of the live checks
    obtain ⟨begins, hbegins⟩ : ∃ begins, begins = c.liveEnd sources cancel := ⟨_, rfl⟩
    obtain ⟨last, hlast⟩ : ∃ last, last = max (lastEnd 0 (c.diskWorkers sources cancel))
        (lastEnd begins (c.lookupWorkers sources source cancel)) := ⟨_, rfl⟩
    have hlookups : ((c.downNodes sources cancel).map source).length =
        (c.downNodes sources cancel).length := List.length_map _
    have hlive := c.liveMembers_of_lt sources (by omega : c.liveEnd sources cancel < begins + 1)
    have hdone : allDecided (membersAt c.config.timeouts.nodeStatus cancel 0 c.config.nodes
        (c.config.nodes.map sources.status) (begins + 1)) = true := by
      rw [hlive]
      exact allDecided_membersOf (c.length_liveWorkers sources cancel)
    have hdown : RunState.nodesDown (membersAt c.config.timeouts.nodeStatus cancel 0
        c.config.nodes (c.config.nodes.map sources.status) (begins + 1)) =
          c.downNodes sources cancel := by
      rw [hlive]
      exact RunState.nodesDown_membersOf c.config.timeouts.nodeStatus c.config.nodes _
    refine ⟨RunState.wholeTimeline c.config.timeouts cancel
      (c.config.nodes.map sources.status) (c.diskCourses sources)
      ((c.downNodes sources cancel).map source) begins (last + 1),
      cancelledBy cancel (begins + (last + 1)), ?_, fun h => ?_⟩
    · have hends : lastEnd begins (c.lookupWorkers sources source cancel) <
          begins + (last + 1) := by omega
      rw [hbegins] at hends
      rw [start, RunState.run_wholeTimeline _ _ hstatuses hdisks hlookups hdone hdown,
        c.liveMembers_of_lt sources (by omega), c.diskMembers_of_lt sources (by omega), hbegins,
        membersAt_of_lastEnd_lt hends, finished, hseqno]
      rfl
    · obtain ⟨rest, hrest⟩ := RunState.checksTimeline_of_cancelled c.config.timeouts cancel
        (c.config.nodes.map sources.status) (c.diskCourses sources) h begins
      rw [RunState.wholeTimeline, hrest]
      exact ⟨_, rfl⟩

/-- **A run with a clock is an order of events.** Some order is over with the reports of the run, its
readings, and the checks that it began. -/
theorem exists_order : ∃ events, ((c.start sources).run events).Over sources.seqno.isSome ∧
    ((c.start sources).run events).EndsAs c.config.timeouts (c.run sources outside takenAt) ∧
    (cancelledBy (c.cancelAt outside) 0 = true → ∃ rest, events = .cancelled :: rest) := by
  obtain ⟨events, cancelled, hrun, hfirst⟩ :=
    c.exists_run_eq_finished sources (c.cancelAt outside)
  refine ⟨events, ?_, ?_, hfirst⟩
  · rw [hrun]
    exact c.over_finished sources cancelled (c.cancelAt outside)
  · rw [hrun]
    exact c.endsAs_finished sources outside takenAt cancelled

/-- What is said of the nodes by a run that had no time for any of them. -/
structure AllTimedOut (nodes : List NodeReport) (disks : List DiskReport) (verdict : Verdict) :
    Prop where
  nodes : nodes = timedOutReports sources.seqno.isSome c.config.nodes
  disks : disks = timedOutReadings (c.diskNodes sources)
  verdict : verdict = .manualInvestigation

theorem allTimedOut_of_silent {s : RunState}
    (h : s.Silent c.config.nodes (c.diskNodes sources)) (hover : s.Over sources.seqno.isSome) :
    c.AllTimedOut sources (s.reports c.config.timeouts) (s.readings c.config.timeouts)
      (Verdict.decide c.quorum (s.reports c.config.timeouts)) where
  nodes := h.reports_eq hover c.config.timeouts
  disks := h.readings_eq hover c.config.timeouts
  verdict := by
    rw [h.reports_eq hover c.config.timeouts]
    exact decide_timedOut c.quorum sources.seqno.isSome c.config.nodes

theorem verdict_run : (c.run sources outside takenAt).snapshot.verdict =
    Verdict.decide c.quorum (c.run sources outside takenAt).snapshot.nodes :=
  rfl

theorem silent_run (events : List RunEvent) :
    ((c.start sources).run (.cancelled :: events)).Silent c.config.nodes (c.diskNodes sources) :=
  (RunState.silent_start c.config.nodes (c.diskNodes sources)).run events

/-- **A run that is cancelled asks nobody any more.** In every order of events, wherever in it the
cancellation falls, no check begins after it: no live check, no lookup, and no disk check. A run that
is cancelled before its first event asks nobody at all; once it is over, every node, every agent and
every disk has timed out, and the verdict is left to people. Every run with a clock is one of these
orders, and the last one is the run that is cancelled in its first tick. -/
theorem asks_nobody_once_cancelled :
    (∀ events later : List RunEvent, ((c.start sources).run events).cancelled = true →
      ((c.start sources).run (events ++ later)).asked = ((c.start sources).run events).asked) ∧
    (∀ events : List RunEvent, ((c.start sources).run (.cancelled :: events)).asked = [] ∧
      (((c.start sources).run (.cancelled :: events)).Over sources.seqno.isSome →
        c.AllTimedOut sources
          (((c.start sources).run (.cancelled :: events)).reports c.config.timeouts)
          (((c.start sources).run (.cancelled :: events)).readings c.config.timeouts)
          (Verdict.decide c.quorum
            (((c.start sources).run (.cancelled :: events)).reports c.config.timeouts)))) ∧
    (∀ (outside : Option Nat) (takenAt : String), ∃ events,
      ((c.start sources).run events).Over sources.seqno.isSome ∧
      ((c.start sources).run events).EndsAs c.config.timeouts
        (c.run sources outside takenAt)) ∧
    ∀ takenAt : String, (c.run sources (some 0) takenAt).asked.checks = [] ∧
      c.AllTimedOut sources (c.run sources (some 0) takenAt).snapshot.nodes
        (c.run sources (some 0) takenAt).snapshot.disks
        (c.run sources (some 0) takenAt).snapshot.verdict := by
  refine ⟨?_, ?_, ?_, ?_⟩
  · intro events later hcancelled
    rw [RunState.run_append]
    exact RunState.asked_run hcancelled later
  · intro events
    have hsilent := c.silent_run sources events
    exact ⟨hsilent.asked_eq, c.allTimedOut_of_silent sources hsilent⟩
  · intro outside takenAt
    obtain ⟨events, hover, hends, -⟩ := c.exists_order sources outside takenAt
    exact ⟨events, hover, hends⟩
  · intro takenAt
    obtain ⟨events, hover, hends, hfirst⟩ := c.exists_order sources (some 0) takenAt
    have hnow : cancelledBy (c.cancelAt (some 0)) 0 = true := by
      simp [cancelledBy, cancelAt, cancelTick]
    obtain ⟨rest, rfl⟩ := hfirst hnow
    have hsilent := c.silent_run sources rest
    have htimedOut := c.allTimedOut_of_silent sources hsilent hover
    rw [hends.nodes, hends.disks] at htimedOut
    rw [← hends.asked, verdict_run]
    exact ⟨hsilent.asked_eq, htimedOut⟩

end CheckedConfig

/-- The first node is asked and is still at work when the run is cancelled. -/
def earlyEvents : List RunEvent := [.status 0 ⟨none, false⟩, .cancelled]

/-- Everybody is looked at, and the agents are turned to. -/
def lateEvents : List RunEvent :=
  [.status 0 ⟨none, false⟩, .status 1 ⟨none, false⟩, .seqnosBegin, .seqno 0 ⟨none, false⟩,
    .disk 0 ⟨some (.crashed "boom"), false⟩, .seqno 1 ⟨none, true⟩, .disk 1 ⟨none, false⟩]

theorem pair_asks_nobody_once_cancelled :
    (((CheckedConfig.mk pairConfig .standard).start pairSources).run earlyEvents).cancelled = true ∧
    (((CheckedConfig.mk pairConfig .standard).start pairSources).run
      (earlyEvents ++ lateEvents)).asked = [(.status, ⟨"10.0.0.1", "mysql", "a", none⟩)] ∧
    (((CheckedConfig.mk pairConfig .standard).start pairSources).run
      (.cancelled :: lateEvents)).Over true ∧
    Verdict.decide .standard
      ((((CheckedConfig.mk pairConfig .standard).start pairSources).run
        (.cancelled :: lateEvents)).reports .standard) = .manualInvestigation ∧
    ((CheckedConfig.mk pairConfig .standard).run pairSources (some 0) "").snapshot.verdict =
      .manualInvestigation := by
  obtain ⟨hstops, hsilent, -, hclock⟩ :=
    (CheckedConfig.mk pairConfig .standard).asks_nobody_once_cancelled pairSources
  have hover : (((CheckedConfig.mk pairConfig .standard).start pairSources).run
      (.cancelled :: lateEvents)).Over true := by
    refine ⟨rfl, rfl, fun ms hms => ?_, rfl⟩
    cases hms
    rfl
  exact ⟨rfl, hstops earlyEvents lateEvents rfl, hover, ((hsilent lateEvents).2 hover).verdict,
    (hclock "").2.verdict⟩

end GaleraHealth
