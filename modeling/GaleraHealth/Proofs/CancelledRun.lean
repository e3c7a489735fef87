import GaleraHealth.Check.RunEvents
import GaleraHealth.Proofs.Recovery
import GaleraHealth.Proofs.VerdictMonotone

/-!
# A cancelled run asks nobody

A run takes its events in any order, and a cancellation is one of them. What holds from there on is
kept by every single event:

* `asked_step`, `asked_run`: in a run that is cancelled no check begins any more, in none of the
  three phases.
* `Silent`: in a run that was cancelled before its first event, nobody has been asked, and whoever
  is decided is decided by the cancellation. `Silent.step` and `Silent.run` keep this.
* `Silent.reports_eq`, `Silent.readings_eq`: what such a run says of the nodes once it is over.
-/

namespace GaleraHealth

variable {α : Type}

/-- The failure that a cancellation leaves. -/
def Phase.cancelFailure (phase : Phase) : Failure :=
  ⟨.timeout, phase.name ++ " check cancelled before completion"⟩

/-! ### Members of a cancelled phase -/

/-- The members of a phase that was cancelled before it began: nobody was asked, and nothing but the
cancellation has decided anybody. -/
structure Untouched (nodes : List Node) (ms : List (Member α)) : Prop where
  nodes : ms.map Member.node = nodes
  idle : ∀ m ∈ ms, m.asked = false ∧ ∀ fate, m.fate = some fate → fate = .cancelled

theorem untouched_waiting (nodes : List Node) :
    Untouched nodes (nodes.map Member.waiting : List (Member α)) where
  nodes := by
    rw [List.map_map]
    exact List.map_id nodes
  idle := by
    intro m hm
    obtain ⟨n, -, rfl⟩ := List.mem_map.mp hm
    refine ⟨rfl, fun fate h => ?_⟩
    cases h

theorem idle_look {m : Member α} (h : m.asked = false ∧ ∀ fate, m.fate = some fate →
    fate = .cancelled) (f : Finding α) : (m.look true f).asked = false ∧
      ∀ fate, (m.look true f).fate = some fate → fate = .cancelled := by
  refine ⟨(Member.asked_look_of_cancelled f m).trans h.1, ?_⟩
  intro fate hfate
  cases hm : m.fate with
  | some fate' =>
    rw [Member.look_of_decided (by rw [hm]; rfl)] at hfate
    exact h.2 fate hfate
  | none =>
    rw [Member.look, hm] at hfate
    exact (Option.some.inj hfate).symm

theorem Untouched.lookAt {nodes : List Node} {ms : List (Member α)} (h : Untouched nodes ms)
    (worker : Nat) (f : Finding α) : Untouched nodes (lookAt true worker f ms) where
  nodes := (map_node_lookAt true worker f ms).trans h.nodes
  idle := by
    intro m' hm'
    obtain ⟨i, hi⟩ := List.mem_iff_getElem?.mp hm'
    rw [getElem?_lookAt, Option.map_eq_some_iff] at hi
    obtain ⟨m, hm, rfl⟩ := hi
    have hidle := h.idle m (List.mem_of_getElem? hm)
    by_cases hworker : worker = i
    · rw [if_pos hworker]
      exact idle_look hidle f
    · rw [if_neg hworker]
      exact hidle

/-- Once everybody is decided, everybody is decided by the cancellation. -/
theorem Untouched.fates {nodes : List Node} {ms : List (Member α)} (h : Untouched nodes ms)
    (hdone : allDecided ms = true) :
    ms.map Member.fate = (nodes.map fun _ => Fate.cancelled).map some := by
  rw [← h.nodes, List.map_map, List.map_map]
  apply List.map_congr_left
  intro m hm
  obtain ⟨fate, hfate⟩ := Option.isSome_iff_exists.mp (List.all_eq_true.mp hdone m hm)
  rw [hfate, (h.idle m hm).2 fate hfate]
  rfl

theorem Untouched.memberResults_eq {nodes : List Node} {ms : List (Member α)}
    (h : Untouched nodes ms) (hdone : allDecided ms = true) (phase : Phase) (limit : Duration) :
    memberResults phase limit ms = nodes.map fun _ => .error phase.cancelFailure := by
  rw [memberResults_eq_map phase limit (h.fates hdone), List.map_map]
  rfl

namespace RunState

theorem begun_waiting (nodes : List Node) :
    begun (nodes.map Member.waiting : List (Member α)) = [] := by
  rw [begun, List.filter_eq_nil_iff.mpr, List.map_nil]
  intro m hm
  obtain ⟨n, -, rfl⟩ := List.mem_map.mp hm
  exact Bool.false_ne_true

theorem begun_of_untouched {nodes : List Node} {ms : List (Member α)} (h : Untouched nodes ms) :
    begun ms = [] := by
  rw [begun, List.filter_eq_nil_iff.mpr, List.map_nil]
  intro m hm
  rw [(h.idle m hm).1]
  exact Bool.false_ne_true

/-- A look after the cancellation begins no check. -/
theorem begun_lookAt (worker : Nat) (f : Finding α) (ms : List (Member α)) :
    begun (lookAt true worker f ms) = begun ms := by
  induction ms generalizing worker with
  | nil => rw [lookAt, List.modify_nil]
  | cons m rest ih =>
    cases worker with
    | zero =>
      show begun (m.look true f :: rest) = begun (m :: rest)
      simp only [begun, List.filter_cons, Member.asked_look_of_cancelled]
      split
      · rw [List.map_cons, List.map_cons, Member.node_look]
      · rfl
    | succ worker =>
      have hrest := ih worker
      show begun (m :: lookAt true worker f rest) = begun (m :: rest)
      simp only [begun, List.filter_cons] at hrest ⊢
      split
      · rw [List.map_cons, List.map_cons, hrest]
      · exact hrest

/-! ### No check begins after a cancellation -/

theorem run_cons (s : RunState) (e : RunEvent) (events : List RunEvent) :
    s.run (e :: events) = (s.step e).run events :=
  rfl

theorem run_append (s : RunState) (events more : List RunEvent) :
    s.run (events ++ more) = (s.run events).run more :=
  List.foldl_append

/-- The lookups begin once, after the last live check is decided. -/
theorem step_seqnosBegin {s : RunState} (h : allDecided s.status = true) (hs : s.seqno = none) :
    s.step .seqnosBegin = { s with seqno := some ((nodesDown s.status).map .waiting) } := by
  rw [step, h, hs]
  rfl

/-- At any other time their beginning is out of place. -/
theorem seqnosBegin_cases (s : RunState) :
    (allDecided s.status = true ∧ s.seqno = none) ∨ s.step .seqnosBegin = s := by
  cases hbegin : allDecided s.status && s.seqno.isNone with
  | true =>
    left
    rwa [Bool.and_eq_true, Option.isNone_iff_eq_none] at hbegin
  | false =>
    right
    simp only [step, hbegin, Bool.false_eq_true, if_false]

theorem cancelled_step {s : RunState} (h : s.cancelled = true) (e : RunEvent) :
    (s.step e).cancelled = true := by
  cases e with
  | cancelled => rfl
  | status worker f => exact h
  | seqnosBegin =>
    rcases seqnosBegin_cases s with ⟨hdone, hnone⟩ | hstep
    · rw [step_seqnosBegin hdone hnone]
      exact h
    · rw [hstep]
      exact h
  | seqno worker f => exact h
  | disk worker f => exact h

/-- **One event of a cancelled run.** No check begins with it. -/
theorem asked_step {s : RunState} (h : s.cancelled = true) (e : RunEvent) :
    (s.step e).asked = s.asked := by
  cases e with
  | cancelled => rfl
  | status worker f => simp only [asked, step, h, begun_lookAt]
  | seqnosBegin =>
    rcases seqnosBegin_cases s with ⟨hdone, hnone⟩ | hstep
    · -- the lookups that begin here are all still waiting
      rw [step_seqnosBegin hdone hnone]
      simp only [asked, hnone, Option.getD_some, Option.getD_none, begun_waiting]
      rfl
    · rw [hstep]
  | seqno worker f =>
    simp only [asked, step, h]
    cases s.seqno with
    | none => rfl
    | some ms => simp only [Option.map_some, Option.getD_some, begun_lookAt]
  | disk worker f => simp only [asked, step, h, begun_lookAt]

/-- **Any number of events of a cancelled run.** -/
theorem asked_run {s : RunState} (h : s.cancelled = true) (events : List RunEvent) :
    (s.run events).asked = s.asked := by
  induction events generalizing s with
  | nil => rfl
  | cons e es ih => exact (ih (cancelled_step h e)).trans (asked_step h e)

/-! ### A run that is cancelled from the start -/

/-- A run that was cancelled before anything else happened. Lookups are made for every node once
they begin, for no node is live then. -/
structure Silent (nodes diskNodes : List Node) (s : RunState) : Prop where
  cancelled : s.cancelled = true
  status : Untouched nodes s.status
  seqno : ∀ ms, s.seqno = some ms → Untouched nodes ms
  disk : Untouched diskNodes s.disk

theorem silent_start (nodes diskNodes : List Node) :
    Silent nodes diskNodes ((start nodes diskNodes).step .cancelled) where
  cancelled := rfl
  status := untouched_waiting nodes
  seqno := by
    intro ms h
    cases h
  disk := untouched_waiting diskNodes

theorem nodesDown_of_untouched {nodes : List Node} {ms : List (Member NodeStatus)}
    (h : Untouched nodes ms) : nodesDown ms = nodes := by
  rw [nodesDown, List.filter_eq_self.mpr, h.nodes]
  intro m hm
  cases hfate : m.fate with
  | none => rfl
  | some fate =>
    cases (h.idle m hm).2 fate hfate
    rfl

variable {nodes diskNodes : List Node} {s : RunState}

theorem Silent.step (h : Silent nodes diskNodes s) (e : RunEvent) :
    Silent nodes diskNodes (s.step e) := by
  have hcancelled := cancelled_step h.cancelled e
  cases e with
  | cancelled => exact ⟨hcancelled, h.status, h.seqno, h.disk⟩
  | status worker f =>
    refine ⟨hcancelled, ?_, h.seqno, h.disk⟩
    show Untouched nodes (lookAt s.cancelled worker f s.status)
    rw [h.cancelled]
    exact h.status.lookAt worker f
  | seqnosBegin =>
    rcases seqnosBegin_cases s with ⟨hdone, hnone⟩ | hstep
    · rw [step_seqnosBegin hdone hnone]
      refine ⟨h.cancelled, h.status, ?_, h.disk⟩
      intro ms hms
      rw [← Option.some.inj hms, nodesDown_of_untouched h.status]
      exact untouched_waiting nodes
    · rw [hstep]
      exact h
  | seqno worker f =>
    refine ⟨hcancelled, h.status, ?_, h.disk⟩
    intro ms' hms'
    obtain ⟨ms, hms, rfl⟩ := Option.map_eq_some_iff.mp hms'
    rw [h.cancelled]
    exact (h.seqno ms hms).lookAt worker f
  | disk worker f =>
    refine ⟨hcancelled, h.status, h.seqno, ?_⟩
    show Untouched diskNodes (lookAt s.cancelled worker f s.disk)
    rw [h.cancelled]
    exact h.disk.lookAt worker f

theorem Silent.run (h : Silent nodes diskNodes s) (events : List RunEvent) :
    Silent nodes diskNodes (s.run events) := by
  induction events generalizing s with
  | nil => exact h
  | cons e es ih => exact ih (h.step e)

theorem Silent.asked_eq (h : Silent nodes diskNodes s) : s.asked = [] := by
  have hseqno : begun (s.seqno.getD []) = [] := by
    cases hms : s.seqno with
    | none => rfl
    | some ms => exact begun_of_untouched (h.seqno ms hms)
  rw [asked, begun_of_untouched h.status, hseqno, begun_of_untouched h.disk]
  rfl

/-! ### What a run says once it is over -/

/-- A run that is over: every check is decided, and the lookups have begun if there are agents. -/
structure Over (asksAgents : Bool) (s : RunState) : Prop where
  status : allDecided s.status = true
  begun : s.seqno.isSome = asksAgents
  seqno : ∀ ms, s.seqno = some ms → allDecided ms = true
  disk : allDecided s.disk = true

/-- The reports after the live checks. -/
def liveReports (times : Timeouts) (s : RunState) : List NodeReport :=
  statusReports (s.status.map Member.node) (memberResults .status times.nodeStatus s.status)

/-- The reports after the lookups, if there are any. -/
def reports (times : Timeouts) (s : RunState) : List NodeReport :=
  match s.seqno with
  | none => s.liveReports times
  | some ms => recovered (s.liveReports times) (memberResults .seqno times.agent ms)

/-- The disk readings. -/
def readings (times : Timeouts) (s : RunState) : List DiskReport :=
  diskReports (s.disk.map Member.node) (memberResults .disk times.diskAgent s.disk)

end RunState

/-! ### Everything timed out -/

/-- The reports of nodes that the run had no time for. -/
def timedOutReports (asksAgents : Bool) (nodes : List Node) : List NodeReport :=
  nodes.map fun n => ⟨n, .down Phase.status.cancelFailure
    (if asksAgents then some Phase.seqno.cancelFailure else none)⟩

/-- The disk readings of nodes that the run had no time for. -/
def timedOutReadings (nodes : List Node) : List DiskReport :=
  nodes.map fun n => ⟨n, .failed Phase.disk.cancelFailure⟩

theorem statusReports_timedOut (nodes : List Node) :
    statusReports nodes (nodes.map fun _ => .error Phase.status.cancelFailure) =
      timedOutReports false nodes := by
  rw [statusReports, List.zipWith_map_right, List.zipWith_self]
  rfl

/-- Where nobody is live, every node takes the next answer. -/
theorem recovered_timedOut (nodes : List Node) :
    recovered (timedOutReports false nodes)
        (nodes.map fun _ => .error Phase.seqno.cancelFailure) =
      timedOutReports true nodes := by
  induction nodes with
  | nil => rfl
  | cons n rest ih =>
    rw [timedOutReports, List.map_cons, List.map_cons, recovered_cons_down rfl]
    exact congrArg _ ih

theorem diskReports_timedOut (nodes : List Node) :
    diskReports nodes (nodes.map fun _ => .error Phase.disk.cancelFailure) =
      timedOutReadings nodes := by
  rw [diskReports, List.zipWith_map_right, List.zipWith_self]
  rfl

/-- Where every node is down, nobody serves and nobody knows a number, and the verdict is left to
people. -/
theorem decide_of_all_down (q : Quorum) {reports : List NodeReport}
    (h : ∀ r ∈ reports, r.IsDown) : Verdict.decide q reports = .manualInvestigation := by
  rw [Verdict.decide_eq_manual_iff]
  refine ⟨fun r hr => ?_, fun r hr n => ?_⟩
  · exact Verdict.not_serves_of_isDown (h r hr) q reports.length
  · exact Verdict.not_knows_of_isDown (h r hr) n

theorem decide_timedOut (q : Quorum) (asksAgents : Bool) (nodes : List Node) :
    Verdict.decide q (timedOutReports asksAgents nodes) = .manualInvestigation := by
  apply decide_of_all_down
  intro r hr
  obtain ⟨n, -, rfl⟩ := List.mem_map.mp hr
  exact .down

namespace RunState

variable {nodes diskNodes : List Node} {s : RunState} {asksAgents : Bool}

theorem Silent.reports_eq (h : Silent nodes diskNodes s) (hover : Over asksAgents s)
    (times : Timeouts) : s.reports times = timedOutReports asksAgents nodes := by
  have hlive : s.liveReports times = timedOutReports false nodes := by
    rw [liveReports, h.status.nodes, h.status.memberResults_eq hover.status]
    exact statusReports_timedOut nodes
  have hbegun := hover.begun
  unfold reports
  cases hms : s.seqno with
  | none =>
    rw [hms] at hbegun
    cases hbegun
    exact hlive
  | some ms =>
    rw [hms] at hbegun
    cases hbegun
    show recovered (s.liveReports times) (memberResults .seqno times.agent ms) = _
    rw [hlive, (h.seqno ms hms).memberResults_eq (hover.seqno ms hms)]
    exact recovered_timedOut nodes

theorem Silent.readings_eq (h : Silent nodes diskNodes s) (hover : Over asksAgents s)
    (times : Timeouts) : s.readings times = timedOutReadings diskNodes := by
  rw [readings, h.disk.nodes, h.disk.memberResults_eq hover.disk]
  exact diskReports_timedOut diskNodes

end RunState

end GaleraHealth
