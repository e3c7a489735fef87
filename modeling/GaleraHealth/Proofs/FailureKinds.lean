import GaleraHealth.Check.Wiring
import GaleraHealth.Proofs.Coherence
import GaleraHealth.Proofs.FallibleSteps
import GaleraHealth.Proofs.Isolation

/-!
# Failures keep to the step they arise in

A failure passes several hands before it is in a snapshot: the client that met it, the worker, the
slot of the worker, the report. Every one of them may give it a kind of its own, so each gets a
lemma that says which.

* `diagnose_eq`: a run against peers is a run in calm circumstances.
* `outcome_eq_error`: a failure in a slot is that of the worker's course, or the phase has made it.
* `LiveFailure`: what a failed live check tells of its database.
* `probe_eq_error`, `askSeqno_eq_error`, `askDisks_eq_error`: the failures of the three clients.
* `nodes_run_eq`, `mem_disks_run`: the reports of a run, cancelled or not.
* `failures_in_place`: the kinds in a snapshot.
-/

namespace GaleraHealth

/-! ### What workers meet -/

theorem befallen_delay_zero {α : Type} (course : Course (Ending α)) :
    course.befallen (.delay 0) = course := by
  cases course with
  | never => rfl
  | after n e => rw [Course.befallen, Nat.zero_add]

/-- A run against peers is a run in calm circumstances. -/
theorem diagnose_eq [Net.NameTable] (c : CheckedConfig) (p : Peers) (outside : Option Nat)
    (takenAt : String) :
    c.diagnose p outside takenAt = c.run (c.config.sourcesIn (.calm p)) outside takenAt := by
  have hsources : c.config.sourcesIn (.calm p) = c.config.sources p := by
    simp only [ClusterConfig.sourcesIn, Circumstances.calm, befallen_delay_zero]
    rfl
  rw [hsources]
  rfl

/-- An answer of a worker with a mishap is the answer that its peers gave. -/
theorem befallen_answered {α : Type} {course : Course (Ending α)} {m : Mishap} {n : Nat}
    {r : Except Failure α} (h : course.befallen m = .after n (.answered r)) :
    ∃ k, course = .after k (.answered r) := by
  cases m with
  | stuck => cases h
  | crash ticks message => cases h
  | delay ticks =>
    cases course with
    | never => cases h
    | after k e =>
      obtain ⟨-, he⟩ := Course.after.inj h
      exact ⟨k, by rw [he]⟩

/-! ### Failures in slots -/

/-- A failure in a slot is made by the phase, or it is the answer of the worker's course. -/
theorem outcome_eq_error {α : Type} {phase : Phase} {limit : Duration} {cancel : Option Nat}
    {start : Nat} {course : Course (Ending α)} {f : Failure}
    (h : course.outcome phase limit cancel start = .error f) :
    f.kind = .timeout ∨ f.kind = phase.crashKind ∨
      ∃ n, course = .after n (.answered (.error f)) := by
  rw [Course.outcome] at h
  cases hfate : (course.fate limit cancel start).2 with
  | cancelled =>
    rw [hfate] at h
    rw [← Except.error.inj h]
    exact .inl rfl
  | expired =>
    rw [hfate] at h
    rw [← Except.error.inj h]
    exact .inl rfl
  | ended e =>
    rw [hfate] at h
    cases e with
    | crashed message =>
      rw [← Except.error.inj h]
      exact .inr (.inl rfl)
    | answered r =>
      have hr : r = .error f := h
      rw [hr] at hfate
      exact .inr (.inr (fate_eq_ended hfate))

theorem Course.map_eq_after {α β : Type} {g : α → β} {course : Course α} {n : Nat} {b : β}
    (h : course.map g = .after n b) : ∃ a, course = .after n a ∧ g a = b := by
  cases course with
  | never => cases h
  | after k a =>
    obtain ⟨hk, hb⟩ := Course.after.inj h
    exact ⟨a, by rw [hk], hb⟩

/-! ### Failures of the live check -/

namespace DatabaseServer

/-- A connection to a server is established: the login is accepted. -/
def Connects (server : DatabaseServer) : Prop :=
  ∃ login status readOnly, server = .listening login status readOnly ∧ login.login = some (.ok ())

/-- A server rejects a connection with an error: while it comes about, or at the login. -/
def Rejects (server : DatabaseServer) (e : DatabaseError) : Prop :=
  server = .unavailable (.refused e) ∨
    ∃ login status readOnly, server = .listening login status readOnly ∧
      login.login = some (.error (.refused e))

end DatabaseServer

/-- An error that denies the access has the number or the state for it. -/
theorem number_or_state_of_denied {e : DatabaseError} (h : e.isAccessDenied = true) :
    e.report.number = 1045 ∨ e.report.state = "28000" := by
  cases e with
  | own e => exact .inl (beq_iff_eq.mp h)
  | other e => exact .inr (beq_iff_eq.mp h)

/-- A refused connection as a failed check, by whether it counts as a denial. -/
theorem failure_refused (e : DatabaseError) :
    (e.isAccessDenied = true ∧ (ConnectFault.refused e).failure = ⟨.authFailed, e.report.message⟩) ∨
      (e.isAccessDenied = false ∧
        (ConnectFault.refused e).failure = ⟨.unreachable, e.report.text⟩) := by
  cases hdenied : e.isAccessDenied with
  | true => exact .inl ⟨rfl, by rw [ConnectFault.failure, if_pos hdenied]⟩
  | false =>
    have hnot : ¬ e.isAccessDenied = true := by
      rw [hdenied]
      exact Bool.false_ne_true
    exact .inr ⟨rfl, by rw [ConnectFault.failure, if_neg hnot]⟩

/-- How a live check fails: in its queries, in time, or for want of a connection. -/
inductive LiveFailure (link : Link) (server : DatabaseServer) (f : Failure) : Prop where
  | queries (hkind : f.kind = .queryFailed)
  | time (hkind : f.kind = .timeout)
  | unconnected (hkind : f.kind = .unreachable) (hnot : ¬ (link = .up ∧ server.Connects))
  | denied (e : DatabaseError) (hkind : f.kind = .authFailed) (hup : link = .up)
      (hrejects : server.Rejects e) (hdenied : e.isAccessDenied = true)
      (hnot : ¬ server.Connects)

namespace LiveFailure

variable {link : Link} {server : DatabaseServer} {f : Failure}

theorem kind_mem (h : LiveFailure link server f) :
    f.kind ∈ [.unreachable, .authFailed, .timeout, .queryFailed] := by
  cases h with
  | queries hkind => rw [hkind]; decide
  | time hkind => rw [hkind]; decide
  | unconnected hkind hnot => rw [hkind]; decide
  | denied e hkind => rw [hkind]; decide

/-- Only a rejection for want of the right makes a failed authentication. -/
theorem rejected (h : LiveFailure link server f) (hauth : f.kind = .authFailed) : link = .up ∧
    ∃ e, server.Rejects e ∧ (e.report.number = 1045 ∨ e.report.state = "28000") := by
  cases h with
  | queries hkind =>
    rw [hauth] at hkind
    cases hkind
  | time hkind =>
    rw [hauth] at hkind
    cases hkind
  | unconnected hkind hnot =>
    rw [hauth] at hkind
    cases hkind
  | denied e hkind hup hrejects hdenied hnot =>
    exact ⟨hup, e, hrejects, number_or_state_of_denied hdenied⟩

/-- An established connection fails in its queries, or in time. -/
theorem connected (h : LiveFailure link server f) (hup : link = .up) (hconnects : server.Connects) :
    f.kind = .queryFailed ∨ f.kind = .timeout := by
  cases h with
  | queries hkind => exact .inl hkind
  | time hkind => exact .inr hkind
  | unconnected hkind hnot => exact absurd ⟨hup, hconnects⟩ hnot
  | denied e hkind hup hrejects hdenied hnot => exact absurd hconnects hnot

/-- The failure that a fault makes of a connection that is not established. -/
theorem of_fault {fault : ConnectFault} (hnot : ¬ server.Connects)
    (hrejects : ∀ e, fault = .refused e → server.Rejects e) :
    LiveFailure .up server fault.failure := by
  have hup : ¬ (Link.up = .up ∧ server.Connects) := fun h => hnot h.2
  cases fault with
  | broken why => exact .unconnected rfl hup
  | noneFree => exact .time rfl
  | refused e =>
    obtain ⟨hdenied, hfailure⟩ | ⟨-, hfailure⟩ := failure_refused e
    · have hkind : (ConnectFault.refused e).failure.kind = .authFailed := by
        rw [hfailure]
      exact .denied e hkind rfl (hrejects e rfl) hdenied hnot
    · have hkind : (ConnectFault.refused e).failure.kind = .unreachable := by
        rw [hfailure]
      exact .unconnected hkind hup

end LiveFailure

/-- **The failures of a live check**: those of a connection that was established, and those of one
that was not. -/
theorem probe_eq_error {times : Timeouts} {link : Link} {server : DatabaseServer} {n : Nat}
    {f : Failure} (h : server.probe times link = .after n (.answered (.error f))) :
    LiveFailure link server f := by
  have hend : ∀ {k : Nat} {g : Failure}, Course.after k (Ending.answered (α := NodeStatus)
      (.error g)) = .after n (.answered (.error f)) → f = g := by
    intro k g heq
    obtain ⟨-, hending⟩ := Course.after.inj heq
    exact (Except.error.inj (Ending.answered.inj hending)).symm
  cases link with
  | down =>
    rw [hend h]
    refine .unconnected rfl ?_
    rintro ⟨hup, -⟩
    cases hup
  | up =>
    cases server with
    | closed =>
      rw [hend h]
      refine .unconnected rfl ?_
      rintro ⟨-, login, status, readOnly, hserver, -⟩
      cases hserver
    | unavailable fault =>
      rw [hend h]
      refine .of_fault ?_ ?_
      · rintro ⟨login, status, readOnly, hserver, -⟩
        cases hserver
      · intro e he
        exact .inl (by rw [he])
    | listening login status readOnly =>
      rw [DatabaseServer.probe] at h
      cases hlogin : login.login with
      | none =>
        rw [hlogin] at h
        rw [hend h]
        exact .time rfl
      | some result =>
        cases result with
        | error fault =>
          rw [hlogin] at h
          rw [hend h]
          refine .of_fault ?_ ?_
          · rintro ⟨login', status', readOnly', hserver, hok⟩
            cases hserver
            rw [hlogin] at hok
            cases hok
          · intro e he
            exact .inr ⟨login, status, readOnly, rfl, by rw [hlogin, he]⟩
        | ok u =>
          rw [hlogin] at h
          simp only at h
          cases hanswer : answerOfQueries status readOnly with
          | none =>
            rw [hanswer] at h
            rw [hend h]
            exact .time rfl
          | some r =>
            rw [hanswer] at h
            obtain ⟨-, hending⟩ := Course.after.inj h
            obtain ⟨fault, -, hfault⟩ := mapError_eq_error (Ending.answered.inj hending)
            rw [← hfault]
            exact .queries rfl

/-! ### Failures of the agents -/

section Agents

variable [Net.NameTable]

theorem askSeqno_eq_error {a : AgentSettings} {limit : Duration} {w : Surroundings}
    {host : String} {n : Nat} {f : Failure}
    (h : a.askSeqno limit w host = .after n (.error f)) : f.kind = .agentUnavailable := by
  obtain ⟨r, -, hr⟩ := Course.map_eq_after h
  obtain ⟨fault, -, hfault⟩ := mapError_eq_error hr
  rw [← hfault]
  rfl

theorem askDisks_eq_error {a : AgentSettings} {limit : Duration} {w : Surroundings}
    {host : String} {n : Nat} {f : Failure}
    (h : a.askDisks limit w host = .after n (.error f)) : f.kind = .diskLookupFailed := by
  obtain ⟨r, -, hr⟩ := Course.map_eq_after h
  obtain ⟨fault, -, hfault⟩ := mapError_eq_error hr
  rw [← hfault]
  rfl

end Agents

/-- A reading that makes no sense counts as one that failed. -/
theorem checked_eq_error {p : DiskPair} {f : Failure} (h : p.checked = .error f) :
    f.kind = .diskLookupFailed := by
  rw [DiskPair.checked] at h
  split at h
  · rw [← Except.error.inj h]
  · split at h
    · rw [← Except.error.inj h]
    · cases h

/-! ### The reports of a run -/

/-- The report of a node from its live check, and from its agent if there is one. -/
def NodeReport.ofChecks (n : Node) (live : Except Failure NodeStatus)
    (agent? : Option (Except Failure Int64)) : NodeReport :=
  match agent? with
  | none => ⟨n, .ofResult live⟩
  | some answer => NodeReport.withAnswer ⟨n, .ofResult live⟩ answer

theorem node_ofChecks (n : Node) (live : Except Failure NodeStatus)
    (agent? : Option (Except Failure Int64)) : (NodeReport.ofChecks n live agent?).node = n := by
  cases agent? with
  | none => rfl
  | some answer => exact node_withAnswer _ _

/-- What a report from the checks of a node says of them. -/
theorem state_ofChecks (n : Node) (live : Except Failure NodeStatus)
    (agent? : Option (Except Failure Int64)) : (NodeReport.ofChecks n live agent?).state =
      match live, agent? with
      | .ok s, _ => .live s
      | .error f, none => .down f none
      | .error f, some (.ok m) => .recovered f m
      | .error f, some (.error a) => .down f (some a) := by
  cases live with
  | ok s =>
    cases agent? with
    | none => rfl
    | some answer => rfl
  | error f =>
    cases agent? with
    | none => rfl
    | some answer =>
      cases answer with
      | ok m => rfl
      | error a => rfl

theorem failure?_ofChecks {n : Node} {live : Except Failure NodeStatus}
    {agent? : Option (Except Failure Int64)} {f : Failure}
    (h : (NodeReport.ofChecks n live agent?).failure? = some f) : live = .error f := by
  rw [NodeReport.failure?, state_ofChecks] at h
  cases live with
  | ok s => cases h
  | error g =>
    have hsame : some g = some f := by
      cases agent? with
      | none => exact h
      | some answer =>
        cases answer with
        | ok m => exact h
        | error a => exact h
    rw [Option.some.inj hsame]

/-- A node that is down has a failure of its agent with it exactly if the agent was asked. -/
theorem down_ofChecks {n : Node} {live : Except Failure NodeStatus}
    {agent? : Option (Except Failure Int64)} {f : Failure} {a? : Option Failure}
    (h : (NodeReport.ofChecks n live agent?).state = .down f a?) :
    agent? = a?.map Except.error := by
  rw [state_ofChecks] at h
  cases live with
  | ok s => cases h
  | error g =>
    cases agent? with
    | none =>
      cases h
      rfl
    | some answer =>
      cases answer with
      | ok m => cases h
      | error a =>
        cases h
        rfl

theorem recovered_ofChecks {n : Node} {live : Except Failure NodeStatus}
    {agent? : Option (Except Failure Int64)} {f : Failure} {m : Int64}
    (h : (NodeReport.ofChecks n live agent?).state = .recovered f m) : agent?.isSome = true := by
  rw [state_ofChecks] at h
  cases live with
  | ok s => cases h
  | error g =>
    cases agent? with
    | none => cases h
    | some answer => rfl

theorem reports_recoverSeqnos (source : Node → Course (Ending Int64)) (limit : Duration)
    (cancel : Option Nat) (start : Nat) (reports : List NodeReport) :
    (recoverSeqnos source limit cancel start reports).reports =
      reports.map fun r => r.withAnswer ((source r.node).outcome .seqno limit cancel start) := by
  rw [← recovered_own_answers reports fun n => (source n).outcome .seqno limit cancel start,
    recoverSeqnos, slots_fanOut, List.map_map]
  rfl

namespace CheckedConfig

variable (c : CheckedConfig) (sources : Sources) (outside : Option Nat) (takenAt : String)

/-- **The reports of a run**, each from the two checks of its own node, whenever they began and
whenever the run was cancelled. -/
theorem nodes_run_eq : ∃ cancel start, (c.run sources outside takenAt).snapshot.nodes =
    c.config.nodes.map fun n => NodeReport.ofChecks n
      ((sources.status n).outcome .status c.config.timeouts.nodeStatus cancel 0)
      (sources.seqno.map fun source =>
        (source n).outcome .seqno c.config.timeouts.agent cancel start) := by
  let cancel := some (cancelTick c.config.timeouts.run outside)
  let live := checkStatuses sources.status c.config.timeouts.nodeStatus cancel 0 c.config.nodes
  refine ⟨cancel, live.endsAt, ?_⟩
  cases hseqno : sources.seqno with
  | none =>
    have hnodes : (c.run sources outside takenAt).snapshot.nodes = live.reports := by
      simp only [run, hseqno, Option.map_none, Option.getD_none]
      rfl
    rw [hnodes, reports_checkStatuses]
    rfl
  | some source =>
    have hnodes : (c.run sources outside takenAt).snapshot.nodes =
        (recoverSeqnos source c.config.timeouts.agent cancel live.endsAt live.reports).reports := by
      simp only [run, hseqno, Option.map_some, Option.getD_some]
      rfl
    rw [hnodes, reports_recoverSeqnos, reports_checkStatuses, List.map_map]
    rfl

/-- A report of a run is made of the two checks of its own node. -/
theorem mem_nodes_run {r : NodeReport}
    (hr : r ∈ (c.run sources outside takenAt).snapshot.nodes) :
    ∃ cancel start, r = NodeReport.ofChecks r.node
      ((sources.status r.node).outcome .status c.config.timeouts.nodeStatus cancel 0)
      (sources.seqno.map fun source =>
        (source r.node).outcome .seqno c.config.timeouts.agent cancel start) := by
  obtain ⟨cancel, start, hnodes⟩ := c.nodes_run_eq sources outside takenAt
  rw [hnodes] at hr
  obtain ⟨n, -, hn⟩ := List.mem_map.mp hr
  refine ⟨cancel, start, ?_⟩
  rw [← hn, node_ofChecks]

/-- The readings of a run in which disk agents are asked. -/
theorem disks_run_eq {source : Node → Course (Ending DiskPair)}
    (hdisk : sources.disk = some source) : (c.run sources outside takenAt).snapshot.disks =
      c.config.nodes.map fun n => ⟨n, .ofResult ((diskCourse source n).outcome .disk
        c.config.timeouts.diskAgent (some (cancelTick c.config.timeouts.run outside)) 0)⟩ := by
  simp only [run, hdisk, Option.map_some, Option.getD_some]
  exact reports_checkDisks source _ _ _ _

/-- The readings of a run, each from the disk check of its own node. -/
theorem mem_disks_run {d : DiskReport}
    (hd : d ∈ (c.run sources outside takenAt).snapshot.disks) :
    ∃ source cancel, sources.disk = some source ∧ d.reading = .ofResult
      ((diskCourse source d.node).outcome .disk c.config.timeouts.diskAgent cancel 0) := by
  cases hdisk : sources.disk with
  | none =>
    simp only [run, hdisk, Option.map_none, Option.getD_none] at hd
    cases hd
  | some source =>
    rw [c.disks_run_eq sources outside takenAt hdisk] at hd
    obtain ⟨n, -, hn⟩ := List.mem_map.mp hd
    rw [← hn]
    exact ⟨source, _, rfl, rfl⟩

end CheckedConfig

/-! ### Failures of the workers of a run -/

section Workers

variable [Net.NameTable]

/-- A failure in the slot of a live check. -/
theorem status_outcome_eq_error {config : ClusterConfig} {w : Circumstances} {n : Node}
    {limit : Duration} {cancel : Option Nat} {start : Nat} {f : Failure}
    (h : ((config.sourcesIn w).status n).outcome .status limit cancel start = .error f) :
    LiveFailure (w.peers .status n).link ((w.peers .status n).databaseOf config n) f := by
  obtain hkind | hkind | ⟨k, hcourse⟩ := outcome_eq_error h
  · exact .time hkind
  · exact .queries hkind
  · obtain ⟨m, hprobe⟩ := befallen_answered hcourse
    exact probe_eq_error hprobe

/-- A failure in the slot of a galera agent. -/
theorem seqno_outcome_eq_error {config : ClusterConfig} {w : Circumstances} {n : Node}
    {source : Node → Course (Ending Int64)} {limit : Duration} {cancel : Option Nat} {start : Nat}
    {f : Failure} (hsource : (config.sourcesIn w).seqno = some source)
    (h : (source n).outcome .seqno limit cancel start = .error f) :
    f.kind = .agentUnavailable ∨ f.kind = .timeout := by
  obtain ⟨a, -, ha⟩ := Option.map_eq_some_iff.mp hsource
  obtain hkind | hkind | ⟨k, hcourse⟩ := outcome_eq_error h
  · exact .inr hkind
  · exact .inl hkind
  · rw [← ha] at hcourse
    obtain ⟨m, hasked⟩ := befallen_answered hcourse
    obtain ⟨r, hr, hanswer⟩ := Course.map_eq_after hasked
    rw [Ending.answered.inj hanswer] at hr
    exact .inl (askSeqno_eq_error hr)

/-- A failure in the slot of a disk check: of the agent, or of a reading that makes no sense. -/
theorem disk_outcome_eq_error {config : ClusterConfig} {w : Circumstances} {n : Node}
    {source : Node → Course (Ending DiskPair)} {limit : Duration} {cancel : Option Nat}
    {start : Nat} {f : Failure} (hsource : (config.sourcesIn w).disk = some source)
    (h : (diskCourse source n).outcome .disk limit cancel start = .error f) :
    f.kind = .diskLookupFailed ∨ f.kind = .timeout := by
  obtain ⟨a, -, ha⟩ := Option.map_eq_some_iff.mp hsource
  obtain hkind | hkind | ⟨k, hcourse⟩ := outcome_eq_error h
  · exact .inr hkind
  · exact .inl hkind
  · left
    obtain ⟨e, he, hbind⟩ := Course.map_eq_after hcourse
    cases e with
    | crashed message => cases hbind
    | answered r =>
      have hr : r.bind DiskPair.checked = .error f := Ending.answered.inj hbind
      cases r with
      | ok p => exact checked_eq_error hr
      | error g =>
        rw [Except.error.inj hr, ← ha] at he
        obtain ⟨m, hasked⟩ := befallen_answered he
        obtain ⟨r, hr, hanswer⟩ := Course.map_eq_after hasked
        rw [Ending.answered.inj hanswer] at hr
        exact askDisks_eq_error hr

end Workers

/-! ### The kinds in a snapshot -/

/-- Every failure in a snapshot has a kind of the step it arose in, in some circumstances of a
run. -/
structure Snapshot.FailuresInPlace (config : ClusterConfig) (w : Circumstances)
    (s : Snapshot) : Prop where
  live : ∀ r ∈ s.nodes, ∀ f, r.failure? = some f →
    f.kind ∈ [.unreachable, .authFailed, .timeout, .queryFailed]
  /-- An authentication failed only where the database rejected it for that. -/
  rejected : ∀ r ∈ s.nodes, ∀ f, r.failure? = some f → f.kind = .authFailed →
    (w.peers .status r.node).link = .up ∧
      ∃ e, ((w.peers .status r.node).databaseOf config r.node).Rejects e ∧
        (e.report.number = 1045 ∨ e.report.state = "28000")
  /-- An established connection fails in its queries, or in time. -/
  connected : ∀ r ∈ s.nodes, ∀ f, r.failure? = some f → (w.peers .status r.node).link = .up →
    ((w.peers .status r.node).databaseOf config r.node).Connects →
      f.kind = .queryFailed ∨ f.kind = .timeout
  agent : ∀ r ∈ s.nodes, ∀ f a, r.state = .down f (some a) →
    a.kind = .agentUnavailable ∨ a.kind = .timeout
  /-- A node that is down has the failure of its agent with it exactly if there are agents. -/
  asked : ∀ r ∈ s.nodes, ∀ f a?, r.state = .down f a? → (a?.isSome ↔ config.galeraAgent.isSome)
  recovered : ∀ r ∈ s.nodes, ∀ f n, r.state = .recovered f n → config.galeraAgent.isSome
  disk : ∀ d ∈ s.disks, ∀ f, d.reading = .failed f →
    f.kind = .diskLookupFailed ∨ f.kind = .timeout

/-- **Failures keep to their steps.** Whatever the workers of a run meet and whatever befalls them,
and whenever the run is cancelled, no failure in the snapshot has the kind of another step. -/
theorem failures_in_place [Net.NameTable] (c : CheckedConfig) (w : Circumstances)
    (outside : Option Nat) (takenAt : String) :
    (c.run (c.config.sourcesIn w) outside takenAt).snapshot.FailuresInPlace c.config w := by
  have hagents : (c.config.sourcesIn w).seqno.isSome = c.config.galeraAgent.isSome :=
    Option.isSome_map
  have hlive : ∀ r ∈ (c.run (c.config.sourcesIn w) outside takenAt).snapshot.nodes, ∀ f,
      r.failure? = some f → LiveFailure (w.peers .status r.node).link
        ((w.peers .status r.node).databaseOf c.config r.node) f := by
    intro r hr f hf
    obtain ⟨cancel, start, hchecks⟩ := c.mem_nodes_run (c.config.sourcesIn w) outside takenAt hr
    rw [hchecks] at hf
    exact status_outcome_eq_error (failure?_ofChecks hf)
  refine ⟨?_, ?_, ?_, ?_, ?_, ?_, ?_⟩
  · intro r hr f hf
    exact (hlive r hr f hf).kind_mem
  · intro r hr f hf hauth
    exact (hlive r hr f hf).rejected hauth
  · intro r hr f hf hup hconnects
    exact (hlive r hr f hf).connected hup hconnects
  · intro r hr f a hstate
    obtain ⟨cancel, start, hchecks⟩ := c.mem_nodes_run (c.config.sourcesIn w) outside takenAt hr
    rw [hchecks] at hstate
    obtain ⟨source, hsource, hanswer⟩ := Option.map_eq_some_iff.mp (down_ofChecks hstate)
    exact seqno_outcome_eq_error hsource hanswer
  · intro r hr f a? hstate
    obtain ⟨cancel, start, hchecks⟩ := c.mem_nodes_run (c.config.sourcesIn w) outside takenAt hr
    rw [hchecks] at hstate
    have hasked := congrArg Option.isSome (down_ofChecks hstate)
    rw [Option.isSome_map, Option.isSome_map, hagents] at hasked
    rw [hasked]
  · intro r hr f m hstate
    obtain ⟨cancel, start, hchecks⟩ := c.mem_nodes_run (c.config.sourcesIn w) outside takenAt hr
    rw [hchecks] at hstate
    have hasked := recovered_ofChecks hstate
    rw [Option.isSome_map, hagents] at hasked
    exact hasked
  · intro d hd f hf
    obtain ⟨source, cancel, hsource, hreading⟩ :=
      c.mem_disks_run (c.config.sourcesIn w) outside takenAt hd
    cases houtcome : (diskCourse source d.node).outcome .disk c.config.timeouts.diskAgent
        cancel 0 with
    | ok p =>
      rw [houtcome, hf] at hreading
      cases hreading
    | error g =>
      rw [houtcome, hf] at hreading
      rw [DiskReading.failed.inj hreading]
      exact disk_outcome_eq_error hsource houtcome

/-- Databases that deny the access. -/
def denyingPeers : Peers where
  toSurroundings := { Surroundings.unreachable with link := .up }
  database _ _ := .listening (.error ⟨1045, "28000", "Access denied"⟩) .fine .fine

/-- Two nodes that have no galera agents. -/
def withoutAgents : CheckedConfig := ⟨{ pairConfig with galeraAgent := none }, .standard⟩

section Examples

attribute [local instance] Net.NameTable.empty

theorem denied_in_place :
    let s := (withoutAgents.run (withoutAgents.config.sourcesIn (.calm denyingPeers)) none
      "").snapshot
    s.FailuresInPlace withoutAgents.config (.calm denyingPeers) ∧
      s.nodes.map (fun r => r.failure?.map Failure.kind) =
        [some .authFailed, some .authFailed] := by
  refine ⟨failures_in_place withoutAgents (.calm denyingPeers) none "", ?_⟩
  decide +kernel

end Examples

end GaleraHealth
