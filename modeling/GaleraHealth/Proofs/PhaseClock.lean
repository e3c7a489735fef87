import GaleraHealth.Proofs.EventOrder

/-!
# Phases with a clock are orders of events

`fanOut` knows the tick at which everything happens, `PhaseState.run` only the order. Whoever looks
at every worker at every tick sees a phase with a clock as one of the orders:

* `Course.found`: what a look finds so many ticks after the start.
* `fate_first_decision`: `Course.fate` is what the first look decides that decides anything.
* `timeline`: the events of a phase, tick by tick, and `run_timeline`: the members after them, which
  are `membersAt`.

`exists_run_eq_fanOut` puts them together: every phase with a clock ends with the members that some
order of events ends with.
-/

namespace GaleraHealth

variable {α : Type}

/-- What a look at a worker finds so many ticks after its start. -/
def Course.found (limit : Duration) (course : Course (Ending α)) (ticks : Nat) : Finding α where
  ending := match course with
    | .never => none
    | .after n e => if n ≤ ticks then some e else none
  expired := decide (limit.ticks ≤ ticks)

/-- What a look decides so many ticks after the start, if anything. -/
def Course.decision (limit : Duration) (cancel : Option Nat) (start : Nat)
    (course : Course (Ending α)) (ticks : Nat) : Option (Fate α) :=
  if cancelledBy cancel (start + ticks) then some .cancelled else (course.found limit ticks).fate?

/-! ### A worker is decided by the first look that decides anything -/

/-- Left alone, a worker is decided by its own end or by its limit, whichever is found first. -/
theorem fate_first_found (limit : Duration) (start : Nat) (course : Course (Ending α)) :
    ∃ d, (course.fate limit none start).1 = start + d ∧
      (course.found limit d).fate? = some (course.fate limit none start).2 ∧
      ∀ d' < d, (course.found limit d').fate? = none := by
  cases course with
  | never =>
    have hfate : (Course.never : Course (Ending α)).fate limit none start =
        (start + limit.ticks, .expired) := rfl
    rw [hfate]
    refine ⟨limit.ticks, rfl, ?_, ?_⟩
    · simp only [Course.found, Finding.fate?, decide_eq_true_eq]
      rw [if_pos (Nat.le_refl _)]
    · intro d' hd'
      simp only [Course.found, Finding.fate?, decide_eq_true_eq]
      rw [if_neg (by omega)]
  | after n e =>
    by_cases hn : n ≤ limit.ticks
    · have hfate : (Course.after n e).fate limit none start = (start + n, .ended e) := by
        simp only [Course.fate, earlier]
        rw [if_pos (by omega)]
      rw [hfate]
      refine ⟨n, rfl, by simp [Course.found, Finding.fate?], ?_⟩
      intro d' hd'
      simp only [Course.found, Finding.fate?, decide_eq_true_eq]
      rw [if_neg (by omega), if_neg (by omega)]
    · have hfate : (Course.after n e).fate limit none start = (start + limit.ticks, .expired) := by
        simp only [Course.fate, earlier]
        rw [if_neg (by omega)]
      rw [hfate]
      refine ⟨limit.ticks, rfl, ?_, ?_⟩
      · simp only [Course.found, Finding.fate?, decide_eq_true_eq]
        rw [if_neg hn, if_pos (Nat.le_refl _)]
      · intro d' hd'
        simp only [Course.found, Finding.fate?, decide_eq_true_eq]
        rw [if_neg (by omega), if_neg (by omega)]

theorem fate_first_decision (limit : Duration) (cancel : Option Nat) (start : Nat)
    (course : Course (Ending α)) : ∃ d, (course.fate limit cancel start).1 = start + d ∧
      course.decision limit cancel start d = some (course.fate limit cancel start).2 ∧
      ∀ d' < d, course.decision limit cancel start d' = none := by
  obtain ⟨d, htick, hfound, hbefore⟩ := fate_first_found limit start course
  cases cancel with
  | none => exact ⟨d, htick, hfound, hbefore⟩
  | some c =>
    have hearlier : course.fate limit (some c) start =
        earlier (max start c, .cancelled) (course.fate limit none start) := rfl
    have hcancelled : ∀ t, cancelledBy (some c) t = true ↔ c ≤ t := by simp [cancelledBy]
    rw [hearlier]
    by_cases hc : max start c ≤ start + d
    · -- the cancellation comes first, also when the worker is ready in the same tick
      rw [earlier, if_pos (by rw [htick]; exact hc)]
      refine ⟨max start c - start, by omega, ?_, ?_⟩
      · rw [Course.decision, if_pos ((hcancelled _).mpr (by omega))]
      · intro d' hd'
        rw [Course.decision, if_neg (by rw [hcancelled]; omega)]
        exact hbefore d' (by omega)
    · rw [earlier, if_neg (by rw [htick]; exact hc)]
      refine ⟨d, htick, ?_, ?_⟩
      · rw [Course.decision, if_neg (by rw [hcancelled]; omega)]
        exact hfound
      · intro d' hd'
        rw [Course.decision, if_neg (by rw [hcancelled]; omega)]
        exact hbefore d' hd'

/-! ### The members of a phase after some ticks -/

/-- A worker that has been looked at in so many ticks. -/
def Course.memberAt (limit : Duration) (cancel : Option Nat) (start : Nat) (n : Node)
    (course : Course (Ending α)) (ticks : Nat) : Member α where
  node := n
  asked := decide (0 < ticks) && !cancelledBy cancel start
  fate := if (course.fate limit cancel start).1 < start + ticks
    then some (course.fate limit cancel start).2 else none

theorem memberAt_of_decided {limit : Duration} {cancel : Option Nat} {start : Nat}
    {course : Course (Ending α)} {ticks : Nat}
    (h : (course.fate limit cancel start).1 < start + ticks) (n : Node) :
    course.memberAt limit cancel start n ticks =
      ⟨n, !cancelledBy cancel start, some (course.fate limit cancel start).2⟩ := by
  obtain ⟨d, htick, -⟩ := fate_first_decision limit cancel start course
  have hpos : 0 < ticks := by omega
  rw [Course.memberAt, if_pos h, decide_eq_true hpos, Bool.true_and]

theorem cancelledBy_mono {cancel : Option Nat} {s t : Nat} (hst : s ≤ t)
    (h : cancelledBy cancel s = true) : cancelledBy cancel t = true := by
  cases cancel with
  | none => exact h
  | some c =>
    simp only [cancelledBy, Option.any_some, decide_eq_true_eq] at h ⊢
    omega

theorem look_of_undecided {m : Member α} (h : m.fate = none) (cancelled : Bool) (f : Finding α) :
    m.look cancelled f =
      ⟨m.node, m.asked || !cancelled, if cancelled then some .cancelled else f.fate?⟩ := by
  obtain ⟨node, asked, fate⟩ := m
  cases h
  cases cancelled with
  | true => simp [Member.look]
  | false => simp [Member.look]

/-- One more tick is one more look. -/
theorem memberAt_succ (limit : Duration) (cancel : Option Nat) (start : Nat) (n : Node)
    (course : Course (Ending α)) (ticks : Nat) :
    (course.memberAt limit cancel start n ticks).look (cancelledBy cancel (start + ticks))
      (course.found limit ticks) = course.memberAt limit cancel start n (ticks + 1) := by
  obtain ⟨d, htick, hdecision, hbefore⟩ := fate_first_decision limit cancel start course
  by_cases hdone : d < ticks
  · rw [memberAt_of_decided (by omega), memberAt_of_decided (by omega)]
    exact Member.look_of_decided rfl _ _
  · have hnone : (course.memberAt limit cancel start n ticks).fate = none := by
      simp only [Course.memberAt, htick]
      rw [if_neg (by omega)]
    -- a worker begins at the first look, unless the run is cancelled by then
    have hasked : (decide (0 < ticks) && !cancelledBy cancel start ||
        !cancelledBy cancel (start + ticks)) = !cancelledBy cancel start := by
      cases hs : cancelledBy cancel start with
      | true => simp [cancelledBy_mono (Nat.le_add_right start ticks) hs]
      | false =>
        cases ticks with
        | zero => simp [hs]
        | succ t => simp
    have hfate : course.decision limit cancel start ticks =
        if start + d < start + (ticks + 1) then some (course.fate limit cancel start).2
        else none := by
      by_cases heq : d = ticks
      · rw [if_pos (by omega), ← heq, hdecision]
      · rw [if_neg (by omega), hbefore ticks (by omega)]
    rw [look_of_undecided hnone]
    simp only [Course.memberAt, htick, hasked]
    rw [← hfate, decide_eq_true (by omega : 0 < ticks + 1), Bool.true_and]
    rfl

/-! ### The events of a phase, tick by tick -/

/-- A look at every worker, so many ticks after the start. The workers are numbered from a number
on. -/
def looks (limit : Duration) (ticks : Nat) : Nat → List (Course (Ending α)) → List (Event α)
  | _, [] => []
  | i, c :: cs => .looked i (c.found limit ticks) :: looks limit ticks (i + 1) cs

/-- What happens in one tick: a cancellation is there before anybody is looked at. -/
def moment (limit : Duration) (cancel : Option Nat) (start : Nat)
    (courses : List (Course (Ending α))) (ticks : Nat) : List (Event α) :=
  (if cancelledBy cancel (start + ticks) then [.cancelled] else []) ++ looks limit ticks 0 courses

/-- What happens in the first so many ticks of a phase. -/
def timeline (limit : Duration) (cancel : Option Nat) (start : Nat)
    (courses : List (Course (Ending α))) : Nat → List (Event α)
  | 0 => []
  | ticks + 1 => timeline limit cancel start courses ticks ++
      moment limit cancel start courses ticks

theorem run_looks (limit : Duration) (ticks : Nat) (cancelled : Bool)
    (courses : List (Course (Ending α))) (before after : List (Member α))
    (h : after.length = courses.length) :
    PhaseState.run ⟨cancelled, before ++ after⟩ (looks limit ticks before.length courses) =
      ⟨cancelled, before ++
        List.zipWith (fun m c => m.look cancelled (c.found limit ticks)) after courses⟩ := by
  induction courses generalizing before after with
  | nil =>
    cases List.length_eq_zero_iff.mp h
    rfl
  | cons c cs ih =>
    obtain ⟨m, rest, rfl⟩ := List.exists_cons_of_length_eq_add_one h
    have hrest : rest.length = cs.length := by simpa using h
    have hmodify : lookAt cancelled before.length (c.found limit ticks) (before ++ m :: rest) =
        (before ++ [m.look cancelled (c.found limit ticks)]) ++ rest := by
      rw [lookAt, List.modify_eq_take_cons_drop (by simp)]
      simp
    have hnext := ih (before ++ [m.look cancelled (c.found limit ticks)]) rest hrest
    rw [List.length_append, List.length_singleton] at hnext
    rw [looks, PhaseState.run_cons, PhaseState.step, hmodify]
    simpa only [List.zipWith_cons_cons, List.append_assoc, List.singleton_append] using hnext

theorem run_moment (limit : Duration) (cancel : Option Nat) (start : Nat)
    (courses : List (Course (Ending α))) (ticks : Nat) {cancelled : Bool}
    (hc : cancelled = true → cancelledBy cancel (start + ticks) = true) (ms : List (Member α))
    (h : ms.length = courses.length) :
    PhaseState.run ⟨cancelled, ms⟩ (moment limit cancel start courses ticks) =
      ⟨cancelledBy cancel (start + ticks), List.zipWith (fun m c =>
        m.look (cancelledBy cancel (start + ticks)) (c.found limit ticks)) ms courses⟩ := by
  have hlooks := run_looks limit ticks (cancelledBy cancel (start + ticks)) courses [] ms h
  simp only [List.nil_append, List.length_nil] at hlooks
  rw [moment, PhaseState.run_append, ← hlooks]
  congr 1
  cases hnow : cancelledBy cancel (start + ticks) with
  | true => rfl
  | false =>
    cases cancelled with
    | true => rw [hc rfl] at hnow; cases hnow
    | false => rfl

/-- The members of a phase that has gone on for so many ticks. -/
def membersAt (limit : Duration) (cancel : Option Nat) (start : Nat) (nodes : List Node)
    (courses : List (Course (Ending α))) (ticks : Nat) : List (Member α) :=
  List.zipWith (fun n c => c.memberAt limit cancel start n ticks) nodes courses

theorem membersAt_zero (limit : Duration) (cancel : Option Nat) (start : Nat) {nodes : List Node}
    {courses : List (Course (Ending α))} (h : courses.length = nodes.length) :
    membersAt limit cancel start nodes courses 0 = nodes.map .waiting := by
  have hwaiting : ∀ (n : Node) (c : Course (Ending α)),
      c.memberAt limit cancel start n 0 = .waiting n := by
    intro n c
    obtain ⟨d, htick, -⟩ := fate_first_decision limit cancel start c
    simp only [Course.memberAt, htick, Member.waiting]
    rw [if_neg (by omega)]
    rfl
  simp only [membersAt, hwaiting]
  apply List.ext_getElem
  · simp [h]
  · simp

/-- What happens in one tick takes the members one tick further. -/
theorem run_moment_membersAt (limit : Duration) (cancel : Option Nat) (start : Nat)
    {nodes : List Node} {courses : List (Course (Ending α))} (h : courses.length = nodes.length)
    (ticks : Nat) {cancelled : Bool}
    (hc : cancelled = true → cancelledBy cancel (start + ticks) = true) :
    PhaseState.run ⟨cancelled, membersAt limit cancel start nodes courses ticks⟩
        (moment limit cancel start courses ticks) =
      ⟨cancelledBy cancel (start + ticks),
        membersAt limit cancel start nodes courses (ticks + 1)⟩ := by
  rw [run_moment limit cancel start courses ticks hc _ (by simp [membersAt, h])]
  congr 1
  apply List.ext_getElem
  · simp [membersAt, h]
  · simp [membersAt, memberAt_succ]

/-- **The members of a phase, tick by tick.** -/
theorem run_timeline (limit : Duration) (cancel : Option Nat) (start : Nat) (nodes : List Node)
    (courses : List (Course (Ending α))) (h : courses.length = nodes.length) (ticks : Nat) :
    (PhaseState.start nodes).run (timeline limit cancel start courses ticks) =
      ⟨decide (0 < ticks) && cancelledBy cancel (start + (ticks - 1)),
        membersAt limit cancel start nodes courses ticks⟩ := by
  induction ticks with
  | zero =>
    rw [membersAt_zero limit cancel start h]
    rfl
  | succ ticks ih =>
    rw [timeline, PhaseState.run_append, ih, run_moment_membersAt limit cancel start h]
    · simp only [Nat.add_sub_cancel, decide_eq_true (Nat.succ_pos ticks), Bool.true_and]
    · intro hc
      rw [Bool.and_eq_true] at hc
      exact cancelledBy_mono (by omega) hc.2

theorem le_lastEnd (start : Nat) (workers : List (Worker α)) : start ≤ lastEnd start workers := by
  induction workers generalizing start with
  | nil => exact Nat.le_refl start
  | cons w ws ih => exact Nat.le_trans (Nat.le_max_left start w.endsAt) (ih _)

theorem endsAt_le_lastEnd (start : Nat) {workers : List (Worker α)} {w : Worker α}
    (hw : w ∈ workers) : w.endsAt ≤ lastEnd start workers := by
  induction workers generalizing start with
  | nil => cases hw
  | cons v vs ih =>
    rcases List.mem_cons.mp hw with rfl | hw
    · exact Nat.le_trans (Nat.le_max_right start w.endsAt) (le_lastEnd _ vs)
    · exact ih _ hw

/-- What is known of workers that are all decided, with their nodes. -/
def membersOf (nodes : List Node) (workers : List (Worker α)) : List (Member α) :=
  List.zipWith (fun n w => ⟨n, w.asked, some w.fate⟩) nodes workers

/-- Once the tick of the last worker is over, everybody has been looked at for the last time that
matters. -/
theorem membersAt_of_lastEnd_lt {limit : Duration} {cancel : Option Nat} {start : Nat}
    {nodes : List Node} {courses : List (Course (Ending α))} {ticks : Nat}
    (hlast : lastEnd start (fanOut limit cancel start courses) < start + ticks) :
    membersAt limit cancel start nodes courses ticks =
      membersOf nodes (fanOut limit cancel start courses) := by
  apply List.ext_getElem
  · simp [membersAt, membersOf, fanOut]
  · intro i h₁ h₂
    have hi : i < courses.length := by
      simp only [membersOf, List.length_zipWith, length_fanOut] at h₂
      omega
    have hworker : (fanOut limit cancel start courses)[i]? =
        some ⟨(courses[i].fate limit cancel start).1, (courses[i].fate limit cancel start).2,
          !cancelledBy cancel start⟩ := by
      simp [fanOut, hi]
    have hend := endsAt_le_lastEnd start (List.mem_of_getElem? hworker)
    have hget := (List.getElem?_eq_some_iff.mp hworker).2
    simp only [membersAt, membersOf, List.getElem_zipWith, hget]
    exact memberAt_of_decided (Nat.lt_of_le_of_lt hend hlast) _

/-- **A phase with a clock is an order of events.** Some order ends with exactly the workers of the
phase: who has begun, and what decided each of them. -/
theorem exists_run_eq_fanOut (limit : Duration) (cancel : Option Nat) (start : Nat)
    (nodes : List Node) (courses : List (Course (Ending α))) (h : courses.length = nodes.length) :
    ∃ events, ((PhaseState.start nodes).run events).members =
      membersOf nodes (fanOut limit cancel start courses) := by
  -- after the tick in which the last worker is decided
  refine ⟨timeline limit cancel start courses
    (lastEnd start (fanOut limit cancel start courses) + 1), ?_⟩
  rw [run_timeline limit cancel start nodes courses h]
  exact membersAt_of_lastEnd_lt (Nat.lt_succ_of_le (Nat.le_add_left _ start))

end GaleraHealth
