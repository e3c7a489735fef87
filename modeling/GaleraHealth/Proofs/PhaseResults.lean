import GaleraHealth.Proofs.PhaseClock

/-!
# What a phase yields

A phase that is over has one result per node, and every result is what the first event that
concerned its worker left there. `getElem?_memberResults` reads the results of decided members by
their numbers; `results_by_first_event` states the whole for any order of events, and that a phase
with a clock is one of these orders.
-/

namespace GaleraHealth

variable {α : Type}

/-- The kind of failure as which a crash counts in a phase. -/
inductive Phase.Blames : Phase → Failure.Kind → Prop
  | status : Blames .status .queryFailed
  | seqno : Blames .seqno .agentUnavailable
  | disk : Blames .disk .diskLookupFailed

/-- What a fate leaves in the slot of a worker: the worker's own result as it is, a failure for want
of time, or the failure that the phase makes of a crash. -/
inductive Fate.Leaves (phase : Phase) : Fate α → Except Failure α → Prop
  | answered {r : Except Failure α} : Leaves phase (.ended (.answered r)) r
  | crashed {message : String} {f : Failure} : phase.Blames f.kind →
      Leaves phase (.ended (.crashed message)) (.error f)
  | cancelled {f : Failure} : f.kind = .timeout → Leaves phase .cancelled (.error f)
  | expired {f : Failure} : f.kind = .timeout → Leaves phase .expired (.error f)

theorem leaves_result (phase : Phase) (limit : Duration) (fate : Fate α) :
    fate.Leaves phase (fate.result phase limit) := by
  cases fate with
  | cancelled => exact .cancelled rfl
  | expired => exact .expired rfl
  | ended e =>
    cases e with
    | answered r => exact .answered
    | crashed message =>
      apply Fate.Leaves.crashed
      cases phase with
      | status => exact .status
      | seqno => exact .seqno
      | disk => exact .disk

/-- What a worker leaves in its slot in a phase with a clock. -/
def Course.outcome (phase : Phase) (limit : Duration) (cancel : Option Nat) (start : Nat)
    (course : Course (Ending α)) : Except Failure α :=
  (course.fate limit cancel start).2.result phase limit

theorem slots_fanOut (phase : Phase) (limit : Duration) (cancel : Option Nat) (start : Nat)
    (courses : List (Course (Ending α))) : slots phase limit (fanOut limit cancel start courses) =
      courses.map (Course.outcome phase limit cancel start) := by
  rw [slots, fanOut, List.map_map]
  rfl

/-! ### The results of decided members -/

/-- Where all members are decided, their results are one for each, in their order. -/
theorem memberResults_eq_map (phase : Phase) (limit : Duration) {ms : List (Member α)}
    {fates : List (Fate α)} (h : ms.map Member.fate = fates.map some) :
    memberResults phase limit ms = fates.map (Fate.result phase limit) := by
  have hfates : memberResults phase limit ms =
      (ms.map Member.fate).filterMap (Option.map (Fate.result phase limit)) := by
    rw [memberResults, List.filterMap_map]
    rfl
  rw [hfates, h, List.filterMap_map, ← List.filterMap_eq_map]
  rfl

theorem exists_fates {ms : List (Member α)} (h : allDecided ms = true) :
    ∃ fates : List (Fate α), ms.map Member.fate = fates.map some := by
  induction ms with
  | nil => exact ⟨[], rfl⟩
  | cons m ms ih =>
    rw [allDecided, List.all_cons, Bool.and_eq_true] at h
    obtain ⟨fate, hm⟩ := Option.isSome_iff_exists.mp h.1
    obtain ⟨fates, hms⟩ := ih h.2
    exact ⟨fate :: fates, by rw [List.map_cons, List.map_cons, hm, hms]⟩

theorem allDecided_of_fates {ms : List (Member α)} {fates : List (Fate α)}
    (h : ms.map Member.fate = fates.map some) : allDecided ms = true := by
  have hall : (ms.map Member.fate).all Option.isSome = true := by
    rw [h]
    simp
  rwa [List.all_map] at hall

theorem fates_membersOf {nodes : List Node} {workers : List (Worker α)}
    (h : workers.length = nodes.length) :
    (membersOf nodes workers).map Member.fate = (workers.map Worker.fate).map some := by
  apply List.ext_getElem
  · simp [membersOf, h]
  · intro i h₁ h₂
    simp [membersOf]

theorem allDecided_membersOf {nodes : List Node} {workers : List (Worker α)}
    (h : workers.length = nodes.length) : allDecided (membersOf nodes workers) = true :=
  allDecided_of_fates (fates_membersOf h)

theorem memberResults_membersOf (phase : Phase) (limit : Duration) {nodes : List Node}
    {workers : List (Worker α)} (h : workers.length = nodes.length) :
    memberResults phase limit (membersOf nodes workers) = slots phase limit workers := by
  rw [memberResults_eq_map phase limit (fates_membersOf h), slots, List.map_map]
  rfl

theorem length_memberResults (phase : Phase) (limit : Duration) {ms : List (Member α)}
    (h : allDecided ms = true) : (memberResults phase limit ms).length = ms.length := by
  obtain ⟨fates, hfates⟩ := exists_fates h
  have hlength := congrArg List.length hfates
  rw [List.length_map, List.length_map] at hlength
  rw [memberResults_eq_map phase limit hfates, List.length_map, hlength]

theorem getElem?_memberResults (phase : Phase) (limit : Duration) {ms : List (Member α)}
    (h : allDecided ms = true) {i : Nat} {m : Member α} (hm : ms[i]? = some m) :
    ∃ fate, m.fate = some fate ∧
      (memberResults phase limit ms)[i]? = some (fate.result phase limit) := by
  obtain ⟨fates, hfates⟩ := exists_fates h
  have hi := congrArg (·[i]?) hfates
  simp only [List.getElem?_map, hm, Option.map_some] at hi
  obtain ⟨fate, hfate, hsome⟩ := Option.map_eq_some_iff.mp hi.symm
  refine ⟨fate, hsome.symm, ?_⟩
  rw [memberResults_eq_map phase limit hfates, List.getElem?_map, hfate, Option.map_some]

namespace PhaseState

/-- Once everybody is decided, nothing that happens matters. -/
theorem members_run_of_allDecided {s : PhaseState α} (h : allDecided s.members = true)
    (events : List (Event α)) : (s.run events).members = s.members := by
  apply List.ext_getElem?
  intro i
  cases hm : s.members[i]? with
  | none =>
    rw [List.getElem?_eq_none_iff] at hm ⊢
    rwa [length_run]
  | some m => exact decided_run hm (List.all_eq_true.mp h m (List.mem_of_getElem? hm)) events

theorem node_run (nodes : List Node) (events : List (Event α)) :
    ((start nodes).run events).members.map Member.node = nodes :=
  (follows_run nodes events).nodes

theorem length_members_run (nodes : List Node) (events : List (Event α)) :
    ((start nodes).run events).members.length = nodes.length :=
  (length_run _ _).trans (List.length_map _)

end PhaseState

/-- The results of a phase that is over, worker by worker. -/
structure SlotsByFirstEvent (phase : Phase) (limit : Duration) (nodes : List Node)
    (events : List (Event α)) (results : List (Except Failure α)) : Prop where
  length : results.length = nodes.length
  /-- The one fate that the first event about a worker decides fills its slot. -/
  slot : ∀ i < nodes.length, ∃ fate, FirstFate events i fate ∧
    (∀ other, FirstFate events i other → other = fate) ∧
    results[i]? = some (fate.result phase limit) ∧
    fate.Leaves phase (fate.result phase limit)

theorem slotsByFirstEvent_of_allDecided (phase : Phase) (limit : Duration) (nodes : List Node)
    (events : List (Event α))
    (h : allDecided ((PhaseState.start nodes).run events).members = true) :
    SlotsByFirstEvent phase limit nodes events
      (memberResults phase limit ((PhaseState.start nodes).run events).members) where
  length := by rw [length_memberResults phase limit h, PhaseState.length_members_run]
  slot := by
    intro i hi
    rw [← PhaseState.length_members_run nodes events] at hi
    have hm := List.getElem?_eq_getElem hi
    obtain ⟨fate, hfate, hslot⟩ := getElem?_memberResults phase limit h hm
    have hagrees := (PhaseState.follows_run nodes events).members i _ hm
    rw [Member.Agrees, hfate] at hagrees
    exact ⟨fate, hagrees, fun other hother => hother.unique hagrees, hslot,
      leaves_result phase limit fate⟩

/-- The results of a phase with a clock are those of some order of events. -/
theorem exists_run_eq_slots (phase : Phase) (limit : Duration) (cancel : Option Nat) (start : Nat)
    (nodes : List Node) (courses : List (Course (Ending α))) (h : courses.length = nodes.length) :
    ∃ events, allDecided ((PhaseState.start nodes).run events).members = true ∧
      memberResults phase limit ((PhaseState.start nodes).run events).members =
        slots phase limit (fanOut limit cancel start courses) := by
  obtain ⟨events, hmembers⟩ := exists_run_eq_fanOut limit cancel start nodes courses h
  have hworkers : (fanOut limit cancel start courses).length = nodes.length := by
    rw [length_fanOut, h]
  refine ⟨events, ?_, ?_⟩
  · rw [hmembers]
    exact allDecided_membersOf hworkers
  · rw [hmembers, memberResults_membersOf phase limit hworkers]

/-- **Every slot is filled by the first event that concerns its worker**, in any order of events
that lets the phase end. One worker stands for each node, in the order of the nodes. A worker that is
decided stays as it is whatever happens later, and so do the results of the whole phase. A phase
with a clock, whatever its courses are and whenever it is cancelled, is one of these orders. -/
theorem results_by_first_event (phase : Phase) (limit : Duration) (nodes : List Node) :
    (∀ events : List (Event α), allDecided ((PhaseState.start nodes).run events).members = true →
      ((PhaseState.start nodes).run events).members.map Member.node = nodes ∧
      SlotsByFirstEvent phase limit nodes events
        (memberResults phase limit ((PhaseState.start nodes).run events).members) ∧
      ∀ later, memberResults phase limit ((PhaseState.start nodes).run (events ++ later)).members =
        memberResults phase limit ((PhaseState.start nodes).run events).members) ∧
    (∀ (events later : List (Event α)) (i : Nat) (m : Member α),
      ((PhaseState.start nodes).run events).members[i]? = some m → m.fate.isSome →
      ((PhaseState.start nodes).run (events ++ later)).members[i]? = some m) ∧
    ∀ (cancel : Option Nat) (start : Nat) (courses : List (Course (Ending α))),
      courses.length = nodes.length →
      ∃ events, allDecided ((PhaseState.start nodes).run events).members = true ∧
        memberResults phase limit ((PhaseState.start nodes).run events).members =
          slots phase limit (fanOut limit cancel start courses) := by
  refine ⟨?_, ?_, ?_⟩
  · intro events hdone
    refine ⟨PhaseState.node_run nodes events,
      slotsByFirstEvent_of_allDecided phase limit nodes events hdone, ?_⟩
    intro later
    rw [PhaseState.run_append, PhaseState.members_run_of_allDecided hdone]
  · intro events later i m hm hfate
    rw [PhaseState.run_append]
    exact PhaseState.decided_run hm hfate later
  · intro cancel start courses hlength
    exact exists_run_eq_slots phase limit cancel start nodes courses hlength

/-- Three nodes of one cluster. -/
def threeNodes : List Node :=
  [⟨"10.0.0.1", "mysql", "a", none⟩, ⟨"10.0.0.2", "mysql", "b", none⟩,
    ⟨"10.0.0.3", "mysql", "c", none⟩]

/-- The second worker crashes, the third ends together with its limit, and the first has its answer
only after the run was cancelled. -/
def mixedEvents : List (Event Nat) :=
  [.looked 0 ⟨none, false⟩, .looked 1 ⟨some (.crashed "boom"), false⟩,
    .looked 2 ⟨some (.answered (.ok 7)), true⟩, .cancelled,
    .looked 0 ⟨some (.answered (.ok 5)), false⟩]

/-- The same three workers with a clock: the first would end long after the cancellation. -/
def mixedCourses : List (Course (Ending Nat)) :=
  [.after 90 (.answered (.ok 5)), .after 1 (.crashed "boom"), .after 50 (.answered (.ok 7))]

theorem results_of_mixedEvents :
    (allDecided ((PhaseState.start threeNodes).run mixedEvents).members = true ∧
      SlotsByFirstEvent .status (.ofMillis 50) threeNodes mixedEvents
        (memberResults .status (.ofMillis 50)
          ((PhaseState.start threeNodes).run mixedEvents).members)) ∧
    (∃ m : Member Nat,
      ((PhaseState.start threeNodes).run (mixedEvents.take 3)).members[1]? = some m ∧
      m.fate.isSome ∧
      ((PhaseState.start threeNodes).run (mixedEvents.take 3 ++ mixedEvents.drop 3)).members[1]? =
        some m) ∧
    (mixedCourses.length = threeNodes.length ∧
      ∃ events, allDecided ((PhaseState.start threeNodes).run events).members = true ∧
        memberResults .status (.ofMillis 50) ((PhaseState.start threeNodes).run events).members =
          slots .status (.ofMillis 50) (fanOut (.ofMillis 50) (some 60) 0 mixedCourses)) := by
  obtain ⟨hevents, hstay, hclock⟩ :=
    results_by_first_event (α := Nat) .status (.ofMillis 50) threeNodes
  refine ⟨⟨rfl, (hevents mixedEvents rfl).2.1⟩, ?_, rfl, hclock (some 60) 0 mixedCourses rfl⟩
  exact ⟨_, rfl, rfl, hstay (mixedEvents.take 3) (mixedEvents.drop 3) 1 _ rfl rfl⟩

end GaleraHealth
