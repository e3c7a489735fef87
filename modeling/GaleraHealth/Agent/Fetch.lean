import GaleraHealth.Agent.Endpoint
import GaleraHealth.Check.Course
import GaleraHealth.Text.Utf8

/-!
# Asking an agent

An agent answers a request with a status and a body, or names another place to ask at, ten times at
most. Only a status from 200 to 299 counts, and then the body must be there to its end and be of the
agreed form. The detail of a failure names the URL that was asked first.
-/

namespace GaleraHealth

/-- Why a request has no answer, or an answer no end. -/
inductive SendFault where
  | networkDown
  | hangup
  | timedOut
  | other (message : String)
  deriving DecidableEq, Repr

def SendFault.message : SendFault → String
  | .networkDown =>
    "client error (Connect): tcp connect error: Network is unreachable (os error 101)"
  | .hangup => "client error (SendRequest): connection closed before message completed"
  | .timedOut => "operation timed out"
  | .other message => message

/-- Why an agent's answer is of no use. -/
inductive FetchFault where
  /-- No answer comes from the last place that was asked. -/
  | failed (url last : Net.Url) (why : SendFault)
  /-- The last place names yet another one. -/
  | tooFar (url last : Net.Url)
  | badStatus (status : UInt16) (body : List UInt8)
  /-- The body does not come to its end. -/
  | brokenBody (why : SendFault)
  | badBody (url : Net.Url)
  deriving DecidableEq

def FetchFault.message : FetchFault → String
  | .failed url last why =>
    "Request to " ++ url.text ++ " failed: error sending request for url (" ++ last.text ++ "): " ++
      why.message
  | .tooFar url last =>
    "Request to " ++ url.text ++ " failed: error following redirect for url (" ++ last.text ++
      "): too many redirects"
  | .badStatus status body =>
    "Unexpected status code: " ++ Decimal.natText status.toNat ++ " (" ++
      Text.trim (Text.ofBytesLossy body) ++ ")"
  | .brokenBody why =>
    "Failed to read response body: error decoding response body: " ++
      "request or response body error: " ++ why.message
  | .badBody url => "Failed to parse response from " ++ url.text

/-- Whether a status says that the body is what was asked for. -/
def isSuccess (status : UInt16) : Bool := 200 ≤ status && status < 300

/-- How often a client goes on to another place. -/
def mostHops : Nat := 10

/-- The place that a request comes to with some hops left, and the reply there. -/
def follow (reply : Net.Url → Reply) : Nat → Net.Url → Net.Url × Reply
  | 0, url => (url, reply url)
  | hops + 1, url =>
    match reply url with
    | .elsewhere next => follow reply hops next
    | r => (url, r)

namespace Endpoint

variable {α : Type}

/-- What an answer holds, whose body is read by `read?`. -/
def judge (e : Endpoint) (read? : List UInt8 → Option α) (status : UInt16) (body : List UInt8) :
    Except FetchFault α :=
  let body := if hasNoBody status then [] else body
  if isSuccess status then
    match read? body with
    | some a => .ok a
    | none => .error (.badBody e.url)
  else .error (.badStatus status body)

/-- What comes of an answer whose body does not come to its end: after so many ticks it is given
up, unless it has no body anyhow. -/
def incomplete (e : Endpoint) (read? : List UInt8 → Option α) (status : UInt16) (ticks : Nat)
    (why : SendFault) : Course (Except FetchFault α) :=
  if hasNoBody status then .after 0 (e.judge read? status [])
  else if isSuccess status then .after ticks (.error (.brokenBody why))
  else .after ticks (.error (.badStatus status []))

/-- A final answer has a status from 200 to 999; any other one is no answer. -/
def ifFinal (e : Endpoint) (last : Net.Url) (status : UInt16)
    (course : Course (Except FetchFault α)) : Course (Except FetchFault α) :=
  if 200 ≤ status ∧ status < 1000 then course
  else .after 0 (.error (.failed e.url last .hangup))

/-- What comes of the reply at the last place. The client gives up at its limit. -/
def receive (e : Endpoint) (read? : List UInt8 → Option α) (limit : Duration) (last : Net.Url) :
    Reply → Course (Except FetchFault α)
  | .hangup => .after 0 (.error (.failed e.url last .hangup))
  | .silent => .after limit.ticks (.error (.failed e.url last .timedOut))
  | .unreached why => .after 0 (.error (.failed e.url last (.other why)))
  | .answered status body => e.ifFinal last status (.after 0 (e.judge read? status body))
  | .brokenOff status why =>
    e.ifFinal last status (e.incomplete read? status 0 (.other why))
  | .stalled status =>
    e.ifFinal last status (e.incomplete read? status limit.ticks .timedOut)
  | .elsewhere _ => .after 0 (.error (.tooFar e.url last))

/-- The reply at a URL. The address of an endpoint stands for its own host alone, also when another
place is named. -/
def replyAt (e : Endpoint) (w : Surroundings) (url : Net.Url) : Reply :=
  w.reply (if url.host = e.url.host then e.address else none) url

def fetch (e : Endpoint) (read? : List UInt8 → Option α) (limit : Duration) (w : Surroundings) :
    Course (Except FetchFault α) :=
  match w.link with
  | .down => .after 0 (.error (.failed e.url e.url .networkDown))
  | .up =>
    let (last, reply) := follow (e.replyAt w) mostHops e.url
    e.receive read? limit last reply

end Endpoint

end GaleraHealth
