import GaleraHealth.Cluster.Failure

/-!
# What a database server does

A server takes a connection or refuses it, and then answers the login and each of two queries. An
error it reports has a number, a five-character state, and a message.
-/

namespace GaleraHealth

/-- An error as the server reports it. -/
structure ServerError where
  number : UInt16
  state : String
  message : String
  deriving DecidableEq, Repr

/-- A row of two columns, either of which may be null. -/
abbrev RawRow := Option (List UInt8) × Option (List UInt8)

/-- How a server answers at one stage of a connection. -/
inductive Stage where
  /-- It agrees; a query has no rows. -/
  | fine
  /-- It does not answer. -/
  | silent
  /-- It closes the connection. -/
  | hangup
  /-- The connection breaks in another way, or the answer cannot be read. -/
  | broken (message : String)
  | error (e : ServerError)
  | rows (rows : List RawRow)
  deriving DecidableEq, Repr

/-- The rows of an answered query. -/
def Stage.rowList : Stage → List RawRow
  | .rows rs => rs
  | _ => []

/-- Why a connection broke or did not come about. -/
inductive Breakage where
  | refused
  | networkDown
  | hangup
  /-- Anything else: of the encryption, of the protocol, of the client. -/
  | other (message : String)
  deriving DecidableEq, Repr

def Breakage.message : Breakage → String
  | .refused => "error communicating with database: Connection refused (os error 111)"
  | .networkDown => "error communicating with database: Network is unreachable (os error 101)"
  | .hangup =>
    "error communicating with database: expected to read 4 bytes, got 0 bytes at EOF"
  | .other message => message

/-- A reported error, by what of it the client can tell: an error of the server's own protocol has
its number, of any other only the state is known. -/
inductive DatabaseError where
  | own (e : ServerError)
  | other (e : ServerError)
  deriving DecidableEq, Repr

namespace DatabaseError

def report : DatabaseError → ServerError
  | .own e => e
  | .other e => e

/-- The number of the error that refuses a login. -/
def accessDenied : UInt16 := 1045

/-- Whether the login was refused. -/
def isAccessDenied : DatabaseError → Bool
  | .own e => e.number == accessDenied
  | .other e => e.state == "28000"

end DatabaseError

/-- Why no connection came about. -/
inductive ConnectFault where
  | broken (why : Breakage)
  | refused (e : DatabaseError)
  /-- None became free in time. -/
  | noneFree
  deriving DecidableEq, Repr

/-- A database server. -/
inductive DatabaseServer where
  /-- Nothing listens on its port. -/
  | closed
  /-- No connection to it comes about, for this reason. -/
  | unavailable (fault : ConnectFault)
  /-- It answers the login, the query for the replication status, and the one for `read_only`. -/
  | listening (login status readOnly : Stage)
  deriving DecidableEq, Repr

end GaleraHealth
