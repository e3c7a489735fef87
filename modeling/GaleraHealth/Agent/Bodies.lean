import GaleraHealth.Cluster.Encoding
import GaleraHealth.Json.Reader

/-!
# Bodies of agents' answers

A galera agent answers with a sequence number, alone or in an object beside the time at which it
was read. A disk agent answers with the counters of both disks, the canary with whether replication
works. A record may be written as the list of its fields, but not the object of a galera agent.
-/

namespace GaleraHealth

/-- The last sequence number of a node as its galera agent knows it. -/
structure SequenceNumber where
  value : Int64
  /-- When it was read. -/
  timestamp : Option String
  deriving DecidableEq, Repr

namespace SequenceNumber

def ofJson? : Json → Option SequenceNumber
  | .object fields => do
    let fs ← (Json.object fields).record? ["sequence_number", "timestamp"] 2
    let value ← required? fs "sequence_number" Json.signed64?
    let timestamp ← omittable? Json.form fs "timestamp" Json.string?
    return ⟨value, timestamp⟩
  | j => j.signed64?.map (⟨·, none⟩)

/-- The sequence number in a body, every part of which is read. -/
def ofBody? (body : List UInt8) : Option SequenceNumber :=
  (Json.wholeOfBytes? body).bind ofJson?

end SequenceNumber

def DiskPair.ofBody? (body : List UInt8) : Option DiskPair :=
  (Json.ofBytes? body).bind DiskPair.ofJson?

def Canary.healthOfJson? (j : Json) : Option Bool := do
  let fs ← j.record? ["healthy"] 1
  required? fs "healthy" Json.bool?

def Canary.healthOfBody? (body : List UInt8) : Option Bool :=
  (Json.ofBytes? body).bind Canary.healthOfJson?

end GaleraHealth
