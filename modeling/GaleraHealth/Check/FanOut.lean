import GaleraHealth.Check.Course
import GaleraHealth.Text.Quoted

/-!
# One check per node

A phase of a run asks every node at once, one worker per node, and waits for all of them. Each
worker has its own slot in the result and a limit of its own; when the run is cancelled, every
worker that is still at work stops. A worker is decided by what happens to it first. Of things that
happen in one tick a cancellation comes before the worker's own end, and that before the limit.
-/

namespace GaleraHealth

/-- The three kinds of checks that are made of nodes. -/
inductive Phase where
  | status
  | seqno
  | disk
  deriving DecidableEq, Repr

def Phase.name : Phase → String
  | .status => "status"
  | .seqno => "sequence number"
  | .disk => "disk"

def Phase.crashKind : Phase → Failure.Kind
  | .status => .queryFailed
  | .seqno => .agentUnavailable
  | .disk => .diskLookupFailed

/-- What decides a worker. -/
inductive Fate (α : Type) where
  | cancelled
  | ended (ending : Ending α)
  | expired

/-- The result that a fate leaves in the worker's slot. -/
def Fate.result {α : Type} (phase : Phase) (limit : Duration) : Fate α → Except Failure α
  | .cancelled => .error ⟨.timeout, phase.name ++ " check cancelled before completion"⟩
  | .ended (.answered r) => r
  | .ended (.crashed message) =>
    .error ⟨phase.crashKind,
      "worker failed: task N panicked with message " ++ Text.quoted message⟩
  | .expired =>
    .error ⟨.timeout, phase.name ++ " check did not complete within " ++ limit.text⟩

/-- Whether the worker ran to an end of its own and did not crash. -/
def Fate.isFinished {α : Type} : Fate α → Bool
  | .ended (.answered _) => true
  | _ => false

/-- The earlier of two moments; of two in one tick the first one. -/
def earlier {α : Type} (a b : Nat × α) : Nat × α := if a.1 ≤ b.1 then a else b

def cancelledBy (cancel : Option Nat) (tick : Nat) : Bool := cancel.any (· ≤ tick)

/-- When and how a worker is decided that starts at a tick. -/
def Course.fate {α : Type} (limit : Duration) (cancel : Option Nat) (start : Nat)
    (course : Course (Ending α)) : Nat × Fate α :=
  let expiry := (start + limit.ticks, Fate.expired)
  let own := match course with
    | .never => expiry
    | .after n e => earlier (start + n, .ended e) expiry
  match cancel with
  | none => own
  | some c => earlier (max start c, .cancelled) own

/-- What came of one worker. -/
structure Worker (α : Type) where
  endsAt : Nat
  fate : Fate α
  /-- Whether it began its check at all: it does not when the run is already cancelled. -/
  asked : Bool

/-- The workers of a phase that starts at a tick, in the order of their courses. -/
def fanOut {α : Type} (limit : Duration) (cancel : Option Nat) (start : Nat)
    (courses : List (Course (Ending α))) : List (Worker α) :=
  courses.map fun c =>
    let (endsAt, fate) := c.fate limit cancel start
    ⟨endsAt, fate, !cancelledBy cancel start⟩

/-- The results in the workers' slots. -/
def slots {α : Type} (phase : Phase) (limit : Duration) (workers : List (Worker α)) :
    List (Except Failure α) :=
  workers.map fun w => w.fate.result phase limit

/-- When the last worker is decided. -/
def lastEnd {α : Type} (start : Nat) (workers : List (Worker α)) : Nat :=
  workers.foldl (fun t w => max t w.endsAt) start

theorem length_fanOut {α : Type} (limit : Duration) (cancel : Option Nat) (start : Nat)
    (courses : List (Course (Ending α))) :
    (fanOut limit cancel start courses).length = courses.length := by
  simp [fanOut]

end GaleraHealth
