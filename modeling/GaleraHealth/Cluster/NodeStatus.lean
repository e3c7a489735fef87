import GaleraHealth.Text.Blank

/-!
# The live status of a node

What a node reports about itself: the state of its replication, the size and kind of the component
it sees, whether it takes writes, and its last committed sequence number.
-/

namespace GaleraHealth

/-- The state of replication on a node. -/
inductive SyncState where
  | synced
  | donor
  | joining
  | joined
  | unknown
  deriving DecidableEq, Repr

/-- The state that a state comment describes. White space around it and the case of its letters
do not matter. -/
def SyncState.ofComment (comment : String) : SyncState :=
  let c := Text.lowerAscii (Text.trim comment)
  if c = "synced" then .synced
  else if Text.startsWith c "donor" then .donor
  else if c = "joined" then .joined
  else if Text.startsWith c "joining" || c == "waiting on sst" then .joining
  else .unknown

/-- The status that a node reports. -/
structure NodeStatus where
  syncState : SyncState
  /-- The state comment as it was reported. -/
  localState : String
  /-- The number of members that the node sees. -/
  clusterSize : UInt32
  /-- The kind of component that the node sees itself in, as it was reported. -/
  clusterStatus : String
  readOnly : Bool
  localIndex : Option String
  lastCommitted : Option Int64
  deriving DecidableEq, Repr

namespace NodeStatus

/-- Whether the node sees itself in a primary component. -/
def isPrimary (s : NodeStatus) : Bool :=
  Text.equalsIgnoringCase s.clusterStatus "primary"

end NodeStatus

end GaleraHealth
