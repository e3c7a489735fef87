import GaleraHealth.Check.Events

/-!
# The first event that concerns a worker

A phase takes its events in any order. Whatever the order is, a worker is decided by the first event
that decides about it, and by nothing else:

* `Event.Decides`: what an event decides about a worker, after the events before it. A look at a
  worker after a cancellation decides against it whatever else the look finds; an end that a look
  finds counts even when the limit has passed as well.
* `Undecided`, `FirstFate`: no event of a sequence decides about a worker, or the first one that
  does makes this its fate.
* `Member.Agrees`, `PhaseState.Follows`: a worker or a whole state agrees with the events that led
  to it. `follows_step` keeps this over one event and `follows_run` over a whole run.

`decided_step` and `decided_run` say that a decided worker never changes again.
-/

namespace GaleraHealth

variable {α : Type}

/-- What an event decides about a worker, after the events before it. -/
inductive Event.Decides (before : List (Event α)) (worker : Nat) : Event α → Fate α → Prop
  /-- The run had been cancelled, and this is the first look at the worker since. -/
  | cancelled {f : Finding α} : .cancelled ∈ before →
      Decides before worker (.looked worker f) .cancelled
  /-- The worker has come to an end of its own, in time or together with its limit. -/
  | ended {f : Finding α} {e : Ending α} : .cancelled ∉ before → f.ending = some e →
      Decides before worker (.looked worker f) (.ended e)
  /-- The limit has passed and the worker is still at work. -/
  | expired {f : Finding α} : .cancelled ∉ before → f.ending = none → f.expired = true →
      Decides before worker (.looked worker f) .expired

/-- No event of a sequence decides about a worker. -/
def Undecided (events : List (Event α)) (worker : Nat) : Prop :=
  ∀ before e after, events = before ++ e :: after → ∀ fate, ¬ e.Decides before worker fate

/-- The first event of a sequence that decides about a worker makes this its fate. -/
def FirstFate (events : List (Event α)) (worker : Nat) (fate : Fate α) : Prop :=
  ∃ before e after, events = before ++ e :: after ∧ Undecided before worker ∧
    e.Decides before worker fate

theorem Event.Decides.unique {before : List (Event α)} {worker : Nat} {e : Event α}
    {a b : Fate α} (ha : e.Decides before worker a) (hb : e.Decides before worker b) : a = b := by
  cases ha with
  | cancelled hc =>
    cases hb with
    | cancelled => rfl
    | ended hn => exact absurd hc hn
    | expired hn => exact absurd hc hn
  | ended hn he =>
    cases hb with
    | cancelled hc => exact absurd hc hn
    | ended _ he' => rw [Option.some.inj (he.symm.trans he')]
    | expired _ he' => cases he.symm.trans he'
  | expired hn he =>
    cases hb with
    | cancelled hc => exact absurd hc hn
    | ended _ he' => cases he.symm.trans he'
    | expired => rfl

theorem undecided_nil (worker : Nat) : Undecided ([] : List (Event α)) worker := by
  intro before e after h
  simp at h

/-- The only new event of a sequence that is one longer is its last. -/
theorem Undecided.concat {seen : List (Event α)} {worker : Nat} {e : Event α}
    (h : Undecided seen worker) (he : ∀ fate, ¬ e.Decides seen worker fate) :
    Undecided (seen ++ [e]) worker := by
  intro before e' after hsplit
  rcases List.eq_nil_or_concat after with rfl | ⟨rest, last, rfl⟩
  · obtain ⟨rfl, hlast⟩ := List.append_inj' hsplit rfl
    cases hlast
    exact he
  · rw [List.concat_eq_append, ← List.cons_append, ← List.append_assoc] at hsplit
    obtain ⟨hseen, -⟩ := List.append_inj' hsplit rfl
    exact h before e' rest hseen

theorem Undecided.firstFate {seen : List (Event α)} {worker : Nat} {e : Event α} {fate : Fate α}
    (h : Undecided seen worker) (he : e.Decides seen worker fate) :
    FirstFate (seen ++ [e]) worker fate :=
  ⟨seen, e, [], rfl, h, he⟩

theorem FirstFate.append {seen : List (Event α)} {worker : Nat} {fate : Fate α}
    (h : FirstFate seen worker fate) (more : List (Event α)) :
    FirstFate (seen ++ more) worker fate := by
  obtain ⟨before, e, after, rfl, hbefore, he⟩ := h
  exact ⟨before, e, after ++ more, by simp, hbefore, he⟩

/-- Where a sequence is split at an event that decides about a worker, no longer part before another
event is undecided. -/
theorem split_unique {before before' after after' : List (Event α)} {e e' : Event α} {worker : Nat}
    {fate : Fate α} (hsplit : before ++ e :: after = before' ++ e' :: after')
    (he : e.Decides before worker fate) (hbefore' : Undecided before' worker)
    (hle : before.length ≤ before'.length) : before = before' ∧ e = e' := by
  obtain ⟨mid, rfl, hrest⟩ : ∃ mid, before' = before ++ mid ∧ e :: after = mid ++ e' :: after' := by
    rcases List.append_eq_append_iff.mp hsplit with h | ⟨mid, rfl, hrest⟩
    · exact h
    · cases mid with
      | nil => exact ⟨[], by simp, by simpa using hrest.symm⟩
      | cons m mid =>
        rw [List.length_append, List.length_cons] at hle
        omega
  cases mid with
  | nil =>
    cases hrest
    exact ⟨(List.append_nil before).symm, rfl⟩
  | cons m mid =>
    cases hrest
    exact absurd he (hbefore' before e mid rfl fate)

/-- A worker has at most one fate: of two events that are both the first, neither stands before the
other. -/
theorem FirstFate.unique {events : List (Event α)} {worker : Nat} {a b : Fate α}
    (ha : FirstFate events worker a) (hb : FirstFate events worker b) : a = b := by
  obtain ⟨before, e, after, rfl, hbefore, he⟩ := ha
  obtain ⟨before', e', after', hsplit, hbefore', he'⟩ := hb
  rcases Nat.le_total before.length before'.length with hle | hle
  · obtain ⟨rfl, rfl⟩ := split_unique hsplit he hbefore' hle
    exact he.unique he'
  · obtain ⟨rfl, rfl⟩ := split_unique hsplit.symm he' hbefore hle
    exact he.unique he'

/-! ### One look at a worker -/

theorem decides_looked_iff {before : List (Event α)} {worker : Nat} {f : Finding α}
    {fate : Fate α} : (Event.looked worker f).Decides before worker fate ↔
      (.cancelled ∈ before ∧ fate = .cancelled) ∨
        (.cancelled ∉ before ∧ f.fate? = some fate) := by
  constructor
  · intro h
    cases h with
    | cancelled hc => exact .inl ⟨hc, rfl⟩
    | ended hn he => exact .inr ⟨hn, by rw [Finding.fate?, he]⟩
    | expired hn he hx => exact .inr ⟨hn, by rw [Finding.fate?, he, hx]; rfl⟩
  · rintro (⟨hc, rfl⟩ | ⟨hn, hf⟩)
    · exact .cancelled hc
    · unfold Finding.fate? at hf
      split at hf
      · rename_i e he
        cases hf
        exact .ended hn he
      · rename_i he
        split at hf
        · rename_i hx
          cases hf
          exact .expired hn he hx
        · cases hf

/-- What is known of a worker agrees with the events so far: it has the fate that the first event
about it decides, and none as long as there is no such event. -/
def Member.Agrees (seen : List (Event α)) (worker : Nat) (m : Member α) : Prop :=
  match m.fate with
  | none => Undecided seen worker
  | some fate => FirstFate seen worker fate

/-- An event that decides nothing about a worker may be forgotten. -/
theorem Member.Agrees.concat {seen : List (Event α)} {worker : Nat} {m : Member α} {e : Event α}
    (h : m.Agrees seen worker) (he : ∀ fate, ¬ e.Decides seen worker fate) :
    m.Agrees (seen ++ [e]) worker := by
  unfold Agrees at h ⊢
  cases hm : m.fate with
  | none =>
    rw [hm] at h
    exact Undecided.concat h he
  | some fate =>
    rw [hm] at h
    exact FirstFate.append h [e]

/-- A look at a worker that is not decided yet gives it the fate that the look decides, if any. -/
theorem fate_look_iff {before : List (Event α)} {worker : Nat} {cancelled : Bool} {m : Member α}
    {f : Finding α} {fate : Fate α} (hm : m.fate = none)
    (hc : cancelled = true ↔ .cancelled ∈ before) :
    (m.look cancelled f).fate = some fate ↔ (Event.looked worker f).Decides before worker fate := by
  rw [decides_looked_iff, ← hc, Member.look, hm]
  cases cancelled with
  | true => simp [eq_comm]
  | false => simp

theorem Member.Agrees.look {seen : List (Event α)} {worker : Nat} {m : Member α}
    (h : m.Agrees seen worker) {cancelled : Bool} (hc : cancelled = true ↔ .cancelled ∈ seen)
    (f : Finding α) : (m.look cancelled f).Agrees (seen ++ [.looked worker f]) worker := by
  cases hm : m.fate with
  | some fate =>
    rw [Member.look_of_decided (by rw [hm]; rfl)]
    unfold Agrees at h ⊢
    rw [hm] at h ⊢
    exact FirstFate.append h _
  | none =>
    unfold Agrees at h ⊢
    rw [hm] at h
    cases hlook : (m.look cancelled f).fate with
    | none =>
      refine Undecided.concat h (fun fate hd => ?_)
      rw [(fate_look_iff hm hc).mpr hd] at hlook
      cases hlook
    | some fate => exact Undecided.firstFate h ((fate_look_iff hm hc).mp hlook)

theorem getElem?_lookAt (cancelled : Bool) (worker i : Nat) (f : Finding α)
    (ms : List (Member α)) : (lookAt cancelled worker f ms)[i]? =
      ms[i]?.map fun m => if worker = i then m.look cancelled f else m := by
  rw [lookAt, List.getElem?_modify]
  rfl

theorem map_node_lookAt (cancelled : Bool) (worker : Nat) (f : Finding α) (ms : List (Member α)) :
    (lookAt cancelled worker f ms).map Member.node = ms.map Member.node := by
  apply List.ext_getElem?
  intro i
  simp only [List.getElem?_map, getElem?_lookAt, Option.map_map]
  congr 1
  funext m
  by_cases hi : worker = i
  · simp only [Function.comp_apply, if_pos hi, Member.node_look]
  · simp only [Function.comp_apply, if_neg hi]

namespace PhaseState

/-! ### What a state says about the events before it -/

/-- A state agrees with the events that led to it. -/
structure Follows (nodes : List Node) (seen : List (Event α)) (s : PhaseState α) : Prop where
  cancelled : s.cancelled = true ↔ .cancelled ∈ seen
  nodes : s.members.map Member.node = nodes
  members : ∀ i (m : Member α), s.members[i]? = some m → m.Agrees seen i

theorem follows_start (nodes : List Node) : Follows nodes [] (start nodes : PhaseState α) where
  cancelled := by simp [start]
  nodes := by simp [start, Member.waiting, Function.comp_def]
  members := by
    intro i m hm
    obtain ⟨n, -, rfl⟩ := List.mem_map.mp (List.mem_of_getElem? hm)
    exact undecided_nil i

/-- **One event.** A state that agrees with the events before it agrees with one more event after
that event. -/
theorem follows_step {nodes : List Node} {seen : List (Event α)} {s : PhaseState α}
    (h : Follows nodes seen s) (e : Event α) : Follows nodes (seen ++ [e]) (s.step e) := by
  cases e with
  | cancelled =>
    refine ⟨by simp [step], h.nodes, fun i m hm => (h.members i m hm).concat ?_⟩
    rintro fate ⟨⟩
  | looked worker f =>
    refine ⟨?_, ?_, ?_⟩
    · simp only [step, List.mem_append, List.mem_singleton, reduceCtorEq, or_false]
      exact h.cancelled
    · rw [step, map_node_lookAt, h.nodes]
    · intro i m' hm'
      rw [step, getElem?_lookAt, Option.map_eq_some_iff] at hm'
      obtain ⟨m, hm, rfl⟩ := hm'
      by_cases hi : worker = i
      · subst hi
        rw [if_pos rfl]
        exact (h.members worker m hm).look h.cancelled f
      · rw [if_neg hi]
        refine (h.members i m hm).concat ?_
        rintro fate (_ | _ | _) <;> exact hi rfl

/-- **Any number of events.** -/
theorem follows_foldl {nodes : List Node} {seen : List (Event α)} {s : PhaseState α}
    (h : Follows nodes seen s) (events : List (Event α)) :
    Follows nodes (seen ++ events) (s.run events) := by
  induction events generalizing seen s with
  | nil =>
    rw [List.append_nil]
    exact h
  | cons e es ih =>
    have hstep := ih (follows_step h e)
    rwa [List.append_assoc, List.singleton_append] at hstep

theorem follows_run (nodes : List Node) (events : List (Event α)) :
    Follows nodes events ((start nodes).run events) :=
  follows_foldl (follows_start nodes) events

theorem run_cons (s : PhaseState α) (e : Event α) (events : List (Event α)) :
    s.run (e :: events) = (s.step e).run events :=
  rfl

theorem run_append (s : PhaseState α) (events more : List (Event α)) :
    s.run (events ++ more) = (s.run events).run more :=
  List.foldl_append

theorem decided_step {s : PhaseState α} {i : Nat} {m : Member α} (hm : s.members[i]? = some m)
    (hfate : m.fate.isSome) (e : Event α) : (s.step e).members[i]? = some m := by
  cases e with
  | cancelled => exact hm
  | looked worker f =>
    rw [step, getElem?_lookAt, hm, Option.map_some, Member.look_of_decided hfate, ite_self]

theorem decided_run {s : PhaseState α} {i : Nat} {m : Member α} (hm : s.members[i]? = some m)
    (hfate : m.fate.isSome) (events : List (Event α)) : (s.run events).members[i]? = some m := by
  induction events generalizing s with
  | nil => exact hm
  | cons e es ih => exact ih (decided_step hm hfate e)

end PhaseState

end GaleraHealth
