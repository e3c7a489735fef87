import GaleraHealth.Cluster.Failure
import GaleraHealth.Cluster.NodeStatus
import GaleraHealth.Decimal.Reading
import GaleraHealth.Text.Quoted

/-!
# Status rows

A node answers the status query with rows of a variable and its value. Of several rows for one
variable the last counts; unknown variables are passed over; the first value that is not a number
where one is needed makes the rows unusable.
-/

namespace GaleraHealth

/-- A variable and its value. -/
abbrev StatusRow := String × String

namespace StatusRow

/-- Why rows hold no status. -/
inductive Fault where
  /-- There are no rows at all. -/
  | missing
  /-- The value of a variable is not a number of its type. -/
  | notNumber (name value : String)
  deriving DecidableEq, Repr

def Fault.message : Fault → String
  | .missing => "wsrep status variables missing (possibly not a galera node)"
  | .notNumber name value => name ++ " is not a number: " ++ Text.quoted value

def Fault.failure (f : Fault) : Failure :=
  ⟨.queryFailed, f.message⟩

/-- A cluster size: white space around it does not matter. -/
def size? (value : String) : Option UInt32 :=
  (Decimal.unsignedUpTo? 0xFFFFFFFF (Text.trimEnds Text.isBlank value.toList)).map UInt32.ofNat

/-- A sequence number: white space around it does not matter. -/
def seqno? (value : String) : Option Int64 :=
  (Decimal.signedIn? (-0x8000000000000000) 0x7FFFFFFFFFFFFFFF
    (Text.trimEnds Text.isBlank value.toList)).map Int64.ofInt

/-- What the rows so far say. -/
structure Seen where
  localState : Option String
  clusterStatus : String
  clusterSize : UInt32
  localIndex : Option String
  lastCommitted : Option Int64
  lastApplied : Option Int64

def Seen.nothing : Seen := ⟨none, "", 0, none, none, none⟩

/-- A number, or the fault of the row that should hold it. -/
def numberOr {α : Type} (row : StatusRow) (n : Option α) : Except Fault α :=
  match n with
  | some n => .ok n
  | none => .error (.notNumber row.1 row.2)

/-- What the rows say after one more. -/
def Seen.add (s : Seen) (row : StatusRow) : Except Fault Seen :=
  if row.1 = "wsrep_local_state_comment" then .ok { s with localState := some row.2 }
  else if row.1 = "wsrep_cluster_status" then .ok { s with clusterStatus := row.2 }
  else if row.1 = "wsrep_cluster_size" then
    (numberOr row (size? row.2)).map fun n => { s with clusterSize := n }
  else if row.1 = "wsrep_local_index" then .ok { s with localIndex := some row.2 }
  else if row.1 = "wsrep_last_committed" then
    (numberOr row (seqno? row.2)).map fun n => { s with lastCommitted := some n }
  else if row.1 = "wsrep_last_applied" then
    (numberOr row (seqno? row.2)).map fun n => { s with lastApplied := some n }
  else .ok s

/-- The status that the rows describe, of a node that takes writes. -/
def Seen.status (s : Seen) : NodeStatus :=
  let localState := s.localState.getD ""
  { syncState := SyncState.ofComment localState
    localState
    clusterSize := s.clusterSize
    clusterStatus := s.clusterStatus
    readOnly := false
    localIndex := s.localIndex
    lastCommitted := s.lastCommitted <|> s.lastApplied }

def status (rows : List StatusRow) : Except Fault NodeStatus :=
  if rows.isEmpty then .error .missing
  else (rows.foldlM Seen.add Seen.nothing).map Seen.status

/-- Whether a variable is switched on: `ON` in any letter case, or the number one. -/
def isOn (value : String) : Bool :=
  Text.equalsIgnoringCase value "on" || Text.trim value == "1"

end StatusRow

end GaleraHealth
