import GaleraHealth.Check.FanOut
import GaleraHealth.Cluster.Node

/-!
# The order of events in a phase

`fanOut` knows when everything happens. What becomes of a phase hangs only on the order in which
things happen, and here a phase takes one event at a time, in any order: the run is cancelled, or a
worker is looked at. A worker begins its check at the first look, unless the run is cancelled by
then. A look may find the check at an end, or the limit passed, or both, or neither; a worker is
decided by the first look that finds something, and by any look after a cancellation. Whoever is
decided stays so.
-/

namespace GaleraHealth

/-- What a look at a worker finds. -/
structure Finding (α : Type) where
  ending : Option (Ending α)
  expired : Bool

/-- What a finding decides. An end that comes together with the limit counts. -/
def Finding.fate? {α : Type} (f : Finding α) : Option (Fate α) :=
  match f.ending with
  | some e => some (.ended e)
  | none => if f.expired then some .expired else none

/-- A worker of a phase: for which node, whether it has begun its check, and what decided it. -/
structure Member (α : Type) where
  node : Node
  asked : Bool
  fate : Option (Fate α)

namespace Member

/-- A worker that has not been looked at. -/
def waiting {α : Type} (n : Node) : Member α := ⟨n, false, none⟩

def look {α : Type} (cancelled : Bool) (f : Finding α) (m : Member α) : Member α :=
  if m.fate.isSome then m
  else if cancelled then { m with fate := some .cancelled }
  else { m with asked := true, fate := f.fate? }

theorem look_of_decided {α : Type} {m : Member α} (h : m.fate.isSome) (cancelled : Bool)
    (f : Finding α) : m.look cancelled f = m := by
  simp [look, h]

theorem node_look {α : Type} (cancelled : Bool) (f : Finding α) (m : Member α) :
    (m.look cancelled f).node = m.node := by
  unfold look
  split
  · rfl
  · split <;> rfl

theorem asked_look_of_cancelled {α : Type} (f : Finding α) (m : Member α) :
    (m.look true f).asked = m.asked := by
  unfold look
  split <;> rfl

end Member

def lookAt {α : Type} (cancelled : Bool) (worker : Nat) (f : Finding α) (ms : List (Member α)) :
    List (Member α) :=
  ms.modify worker (Member.look cancelled f)

def allDecided {α : Type} (ms : List (Member α)) : Bool := ms.all (·.fate.isSome)

def memberResults {α : Type} (phase : Phase) (limit : Duration) (ms : List (Member α)) :
    List (Except Failure α) :=
  ms.filterMap fun m => m.fate.map (Fate.result phase limit)

/-! ### A phase by itself -/

/-- What happens in a phase. -/
inductive Event (α : Type) where
  | cancelled
  | looked (worker : Nat) (finding : Finding α)

/-- A phase on its way. -/
structure PhaseState (α : Type) where
  cancelled : Bool
  members : List (Member α)

namespace PhaseState

/-- A phase before its first event. -/
def start {α : Type} (nodes : List Node) : PhaseState α := ⟨false, nodes.map Member.waiting⟩

def step {α : Type} (s : PhaseState α) : Event α → PhaseState α
  | .cancelled => { s with cancelled := true }
  | .looked worker f => { s with members := lookAt s.cancelled worker f s.members }

/-- A phase after some events. -/
def run {α : Type} (s : PhaseState α) (events : List (Event α)) : PhaseState α :=
  events.foldl step s

theorem length_step {α : Type} (s : PhaseState α) (e : Event α) :
    (s.step e).members.length = s.members.length := by
  cases e <;> simp [step, lookAt]

theorem length_run {α : Type} (s : PhaseState α) (events : List (Event α)) :
    (s.run events).members.length = s.members.length := by
  induction events generalizing s with
  | nil => rfl
  | cons e es ih => exact (ih (s.step e)).trans (length_step s e)

end PhaseState

end GaleraHealth
