import GaleraHealth.Cluster.Encoding
import GaleraHealth.DiskAgent.Filesystem
import GaleraHealth.Http.BasicAuth
import GaleraHealth.Http.Target
import GaleraHealth.Json.Writer

/-!
# The disk agent

The agent serves two paths: `/health`, for everybody, and `/api/v1/info`, which tells the counters
of both disks to whoever knows user name and password. Who does not is turned away before anything
else about the request is looked at. Both paths answer `GET` and `HEAD` only.
-/

namespace GaleraHealth

/-- A request as it arrives, once it is known to be one. -/
structure Incoming where
  method : String
  /-- The path of its target, not unescaped. -/
  path : List UInt8
  /-- Headers by their names in small letters, in the order of their arrival. -/
  headers : List (String × List UInt8)

/-- A request, if method, target and headers can form one. -/
def Incoming.ofParts? (method target : String) (headers : List (String × List UInt8)) :
    Option Incoming := do
  if !Target.isToken method then none
  let path ← Target.path? target
  if headers.all fun (name, value) => Target.isToken name && value.all Target.isValueByte then
    some ⟨method, path, headers.map fun (name, value) => (Text.lowerAscii name, value)⟩
  else none

/-- What a response holds. -/
inductive Content where
  | nothing
  | text (s : String)
  | json (j : Json)

def Content.type? : Content → Option String
  | .nothing => none
  | .text _ => some "text/plain; charset=utf-8"
  | .json _ => some "application/json"

/-- A response. -/
structure Response where
  status : UInt16
  /-- How to authenticate, for who has to. -/
  authenticate : Option String
  /-- The methods that are allowed, for who used another. -/
  allow : Option String
  content : Content
  /-- Whether the content itself is sent. -/
  hasBody : Bool

/-- The bytes that are sent of a response; JSON is written on one line. -/
def Response.body (r : Response) : List UInt8 :=
  if r.hasBody then
    match r.content with
    | .nothing => []
    | .text s => s.toUTF8.toList
    | .json j => j.compact.toUTF8.toList
  else []

/-- What an agent knows: whom to let in, and which disks to look at. -/
structure DiskAgent where
  credentials : Credentials
  persistent : String
  ephemeral : String

namespace DiskAgent

/-- Whether the first authorization header of a request holds the agent's credentials. -/
def isAuthorized (a : DiskAgent) (r : Incoming) : Bool :=
  match (r.headers.lookup "authorization").bind Credentials.ofHeader? with
  | some c => c == a.credentials
  | none => false

def unauthorized : Response :=
  ⟨401, some "Basic realm=\"mysql-diag-agent\"", none, .text "Unauthorized", true⟩

/-- The answer to a path that is not served. -/
def notFound : Response := ⟨404, none, none, .nothing, true⟩

/-- The answer to a method that a path does not serve. -/
def methodNotAllowed : Response := ⟨405, none, none, .nothing, true⟩

/-- An answer in JSON. -/
def json (status : UInt16) (j : Json) : Response := ⟨status, none, none, .json j, true⟩

def health : Response := json 200 (.object [("status", .string "ok")])

/-- The answer at `/api/v1/info`. -/
def info (a : DiskAgent) (fs : Filesystem) : Response :=
  match fs.disks a.persistent a.ephemeral with
  | .ok p => json 200 p.toJson
  | .error f => json 500 (.object [("error", .string f.message)])

/-- The two paths. -/
inductive Route where
  | health
  | info
  deriving DecidableEq, Repr

def Route.ofPath? (path : List UInt8) : Option Route :=
  if path = "/health".toUTF8.toList then some .health
  else if path = "/api/v1/info".toUTF8.toList then some .info
  else none

/-- Fits an answer of a route to the method: `HEAD` gets no body, and a method that is not served
is told which are. -/
def fitted (method : String) (r : Response) : Response :=
  if method = "GET" then r
  else if method = "HEAD" then { r with hasBody := false }
  else { r with allow := some "GET,HEAD" }

def serves (method : String) : Bool := method == "GET" || method == "HEAD"

def respond (a : DiskAgent) (fs : Filesystem) (r : Incoming) : Response :=
  match Route.ofPath? r.path with
  | none => notFound
  | some .health => fitted r.method (if serves r.method then health else methodNotAllowed)
  | some .info =>
    fitted r.method
      (if !a.isAuthorized r then unauthorized
      else if serves r.method then a.info fs
      else methodNotAllowed)

end DiskAgent

end GaleraHealth
