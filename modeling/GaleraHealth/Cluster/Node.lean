/-!
# Nodes

A member of the cluster as the configuration names it.
-/

namespace GaleraHealth

/-- A configured node. -/
structure Node where
  host : String
  name : String
  uuid : String
  /-- The database port of this node, where it differs from the common one. -/
  port : Option UInt16
  deriving DecidableEq, Repr, Inhabited

namespace Node

/-- What a node is called: its name, followed by its uuid if it has one. -/
def identity (n : Node) : String :=
  if n.uuid.isEmpty then n.name else n.name ++ "/" ++ n.uuid

/-- What a node is called where space is short: at most eight characters of the uuid. -/
def shortIdentity (n : Node) : String :=
  let uuid := String.ofList (n.uuid.toList.take 8)
  if uuid.isEmpty then n.name else n.name ++ "/" ++ uuid

end Node

end GaleraHealth
