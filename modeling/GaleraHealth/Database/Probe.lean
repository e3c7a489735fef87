import GaleraHealth.Check.Course
import GaleraHealth.Config.Cluster
import GaleraHealth.Database.Server
import GaleraHealth.Database.StatusRows
import GaleraHealth.Decimal.Binary
import GaleraHealth.Http.Message
import GaleraHealth.Text.Utf8

/-!
# The live check of a node

One connection is opened, the replication status is queried, and then whether the server is
read-only. Up to the login a failure means that the node cannot be reached or that the credentials
are wrong; from then on it is a failure of the query. Connecting and querying have limits of their
own.
-/

namespace GaleraHealth

/-- The text of an error that the server reports. -/
def ServerError.text (e : ServerError) : String :=
  "error returned from database: " ++ Decimal.natText e.number.toNat ++ " (" ++ e.state ++ "): " ++
    e.message

def ConnectFault.failure : ConnectFault → Failure
  | .broken why => ⟨.unreachable, why.message⟩
  | .refused e =>
    if e.isAccessDenied then ⟨.authFailed, e.report.message⟩
    else ⟨.unreachable, e.report.text⟩
  | .noneFree => ⟨.timeout, "pool timed out while waiting for an open connection"⟩

/-- Why a query on an open connection failed. -/
inductive QueryFault where
  | broken (why : Breakage)
  | refused (e : DatabaseError)
  /-- A column of a row holds no value. -/
  | null (column : Nat)
  | unusable (fault : StatusRow.Fault)
  deriving DecidableEq, Repr

def QueryFault.message : QueryFault → String
  | .broken why => why.message
  | .refused e => e.report.text
  | .null column =>
    "error occurred while decoding column " ++ Decimal.natText column ++
      ": unexpected null; try decoding as an `Option`"
  | .unusable f => f.message

def QueryFault.failure (f : QueryFault) : Failure := ⟨.queryFailed, f.message⟩

/-- A row whose columns both have values, as text. -/
def RawRow.read : RawRow → Except QueryFault StatusRow
  | (none, _) => .error (.null 0)
  | (_, none) => .error (.null 1)
  | (some name, some value) => .ok (Text.ofBytesLossy name, Text.ofBytesLossy value)

/-- The rows of a query, unless it fails. -/
def Stage.query : Stage → Except QueryFault (List RawRow)
  | .hangup => .error (.broken .hangup)
  | .broken message => .error (.broken (.other message))
  | .error e => .error (.refused (.own e))
  | s => .ok s.rowList

def readStatus (rows : List RawRow) : Except QueryFault NodeStatus := do
  let rows ← rows.mapM RawRow.read
  (StatusRow.status rows).mapError .unusable

/-- Whether the first row of the second query says that the server is read-only. -/
def readReadOnly : List RawRow → Except QueryFault Bool
  | [] => .ok false
  | row :: _ => row.read.map fun (_, value) => StatusRow.isOn value

/-- What the two queries tell together, when both are answered or fail. -/
def readNode (status readOnly : Stage) : Except QueryFault NodeStatus := do
  let node ← readStatus (← status.query)
  let isReadOnly ← readReadOnly (← readOnly.query)
  return { node with readOnly := isReadOnly }

/-- What the two queries tell, or `none` if the answer to one does not come. -/
def answerOfQueries (status readOnly : Stage) : Option (Except QueryFault NodeStatus) :=
  if status = .silent then none
  else
    match status.query.bind readStatus with
    | .error f => some (.error f)
    | .ok _ => if readOnly = .silent then none else some (readNode status readOnly)

/-- What comes of the login, or `none` if it is not answered. -/
def Stage.login : Stage → Option (Except ConnectFault Unit)
  | .silent => none
  | .hangup => some (.error (.broken .hangup))
  | .broken message => some (.error (.broken (.other message)))
  | .error e => some (.error (.refused (.own e)))
  | .fine | .rows _ => some (.ok ())

/-- The failure of a connection that does not come about in time. -/
def connectExpired (limit : Duration) : Failure :=
  ⟨.timeout, "connection not established within " ++ limit.text⟩

/-- The failure of queries that are not answered in time. -/
def queryExpired (limit : Duration) : Failure :=
  ⟨.timeout, "status queries did not complete within " ++ limit.text⟩

def DatabaseServer.probe (times : Timeouts) (link : Link) (server : DatabaseServer) :
    Course (Ending NodeStatus) :=
  match link, server with
  | .down, _ => .after 0 (.answered (.error (ConnectFault.broken .networkDown).failure))
  | .up, .closed => .after 0 (.answered (.error (ConnectFault.broken .refused).failure))
  | .up, .unavailable f => .after 0 (.answered (.error f.failure))
  | .up, .listening login status readOnly =>
    match login.login with
    | none => .after times.connect.ticks (.answered (.error (connectExpired times.connect)))
    | some (.error f) => .after 0 (.answered (.error f.failure))
    | some (.ok ()) =>
      match answerOfQueries status readOnly with
      | none => .after times.query.ticks (.answered (.error (queryExpired times.query)))
      | some r => .after 0 (.answered (r.mapError QueryFault.failure))

end GaleraHealth
