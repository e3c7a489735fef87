/-!
# Failures

Why a node, its agents or the canary gave no answer. The kind says in which step it went wrong,
the detail is for people.
-/

namespace GaleraHealth

/-- The step in which a check failed. -/
inductive Failure.Kind where
  /-- No connection to the database. -/
  | unreachable
  /-- The database refused the credentials. -/
  | authFailed
  /-- No answer in time. -/
  | timeout
  /-- The database answered a status query with an error or with unusable rows. -/
  | queryFailed
  /-- A galera agent or the canary gave no usable answer. -/
  | agentUnavailable
  /-- A disk agent gave no usable answer. -/
  | diskLookupFailed
  deriving DecidableEq, Repr

/-- A failed check. -/
structure Failure where
  kind : Failure.Kind
  detail : String
  deriving DecidableEq, Repr

namespace Failure

def Kind.phrase : Kind → String
  | .unreachable => "unreachable"
  | .authFailed => "authentication failed"
  | .timeout => "timed out"
  | .queryFailed => "query failed"
  | .agentUnavailable => "agent unavailable"
  | .diskLookupFailed => "disk lookup failed"

def message (f : Failure) : String :=
  f.kind.phrase ++ ": " ++ f.detail

def isTimeout (f : Failure) : Bool :=
  f.kind == .timeout

end Failure

end GaleraHealth
