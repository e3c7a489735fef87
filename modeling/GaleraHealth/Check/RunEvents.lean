import GaleraHealth.Check.Collect
import GaleraHealth.Check.Events

/-!
# The order of events in a run

A run is cancelled as a whole: from outside or by its own limit, at any moment. The live checks and
the disk checks go on side by side from the start. The lookups of sequence numbers begin after the
last live check is decided, for the nodes that are not live then. Events come in any order; one that
is out of place changes nothing.
-/

namespace GaleraHealth

/-- A run on its way. -/
structure RunState where
  cancelled : Bool
  status : List (Member NodeStatus)
  /-- The lookups of sequence numbers, once they have begun. -/
  seqno : Option (List (Member Int64))
  disk : List (Member DiskPair)

/-- What happens in a run. -/
inductive RunEvent where
  | cancelled
  | status (worker : Nat) (finding : Finding NodeStatus)
  | seqnosBegin
  | seqno (worker : Nat) (finding : Finding Int64)
  | disk (worker : Nat) (finding : Finding DiskPair)

namespace RunState

/-- A run before its first event: the nodes, and those whose disks are checked. -/
def start (nodes diskNodes : List Node) : RunState :=
  ⟨false, nodes.map .waiting, none, diskNodes.map .waiting⟩

/-- The nodes that are not live once their live checks are decided. -/
def nodesDown (ms : List (Member NodeStatus)) : List Node :=
  (ms.filter fun m =>
    match m.fate with
    | some (.ended (.answered (.ok _))) => false
    | _ => true).map Member.node

def step (s : RunState) : RunEvent → RunState
  | .cancelled => { s with cancelled := true }
  | .status worker f => { s with status := lookAt s.cancelled worker f s.status }
  | .seqnosBegin =>
    if allDecided s.status && s.seqno.isNone then
      { s with seqno := some ((nodesDown s.status).map .waiting) }
    else s
  | .seqno worker f => { s with seqno := s.seqno.map (lookAt s.cancelled worker f) }
  | .disk worker f => { s with disk := lookAt s.cancelled worker f s.disk }

/-- A run after some events. -/
def run (s : RunState) (events : List RunEvent) : RunState := events.foldl step s

/-- The nodes whose checks have begun among some members. -/
def begun {α : Type} (ms : List (Member α)) : List Node :=
  (ms.filter (·.asked)).map Member.node

/-- Every check that has begun: in which phase, and of which node. -/
def asked (s : RunState) : List (Phase × Node) :=
  (begun s.status).map (.status, ·) ++ (begun (s.seqno.getD [])).map (.seqno, ·) ++
    (begun s.disk).map (.disk, ·)

end RunState

end GaleraHealth
