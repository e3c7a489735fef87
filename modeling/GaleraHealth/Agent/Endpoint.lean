import GaleraHealth.Agent.Surroundings
import GaleraHealth.Config.Cluster

/-!
# Endpoints of agents

An endpoint is one place on an agent and the credentials for it. With TLS only the configured
certificates are trusted. Where a name is pinned, the agent's certificate is checked against it and
it becomes the host of the URL; the connection still goes to the first address of the agent's own
host. Whether the certificates can be trusted shows last, when the client is made.
-/

namespace GaleraHealth

/-- Why an agent cannot be asked. -/
inductive EndpointFault where
  /-- The text of the trusted certificates cannot be read. -/
  | badCa
  /-- There is no certificate to trust. -/
  | noCa
  | unresolved (host why : String)
  | noAddress (host : String)
  /-- The host does not make a URL. -/
  | badUrl (host : String) (fault : Net.UrlFault)
  | noClient (why : String)
  deriving DecidableEq, Repr

/-- The text of a fault, without its cause. -/
def EndpointFault.message : EndpointFault → String
  | .badCa => "Failed to parse agent CA certificate"
  | .noCa => "TLS is enabled but no CA certificate was configured"
  | .unresolved host _ => "Failed to resolve " ++ host
  | .noAddress host => "No address found for " ++ host
  | .badUrl host _ => "Invalid agent URL for host " ++ host
  | .noClient _ => "Failed to create HTTP client"

def EndpointFault.cause? : EndpointFault → Option String
  | .badCa => some "builder error: invalid certificate encoding"
  | .noCa | .noAddress _ => none
  | .unresolved _ why | .noClient why => some why
  | .badUrl _ fault => some fault.message

/-- The text of a fault with its cause. -/
def EndpointFault.fullMessage (f : EndpointFault) : String :=
  f.message ++ (f.cause?.map (": " ++ ·)).getD ""

/-- The certificates that a client with these settings trusts. -/
def TlsSettings.trust (t : TlsSettings) : Except EndpointFault Trust :=
  if t.enabled then
    match Pem.certificates t.ca with
    | .error _ => .error .badCa
    | .ok [] => .error .noCa
    | .ok roots => .ok (.only roots)
  else .ok .usual

/-- The name that certificates are checked against instead of the host. -/
def TlsSettings.pinnedName? (t : TlsSettings) : Option String :=
  if t.enabled then t.serverName.filter (· ≠ "") else none

/-- The address to connect to, where the URL has a pinned name for host. -/
def TlsSettings.ownAddress (t : TlsSettings) (w : Surroundings) (host : String) (port : UInt16) :
    Except EndpointFault (Option Net.SocketAddress) :=
  if t.pinnedName?.isSome then
    match w.lookup host port with
    | .error why => .error (.unresolved host why)
    | .ok [] => .error (.noAddress host)
    | .ok (address :: _) => .ok (some address)
  else .ok none

/-- The host that stands in the URL. -/
def TlsSettings.urlHost (t : TlsSettings) (host : String) : String := t.pinnedName?.getD host

def TlsSettings.scheme (t : TlsSettings) : Net.Scheme := if t.enabled then .https else .http

/-- One place on an agent. -/
structure Endpoint where
  url : Net.Url
  /-- The address to connect to, if it is not the one of the URL. -/
  address : Option Net.SocketAddress
  credentials : Credentials
  deriving DecidableEq

namespace Endpoint

def build [Net.NameTable] (w : Surroundings) (tls : TlsSettings) (host : String) (port : UInt16)
    (path : String) (credentials : Credentials) : Except EndpointFault Endpoint := do
  let trust ← tls.trust
  let address ← tls.ownAddress w host port
  let url ← (Net.Url.ofParts tls.scheme (tls.urlHost host) port path).mapError (.badUrl host)
  (w.client trust).mapError .noClient
  return ⟨url, address, credentials⟩

def userAgent : String := "mysql-diag/0.1.0"

def request (e : Endpoint) (id : RequestId) : Request :=
  ⟨"GET", e.url, e.credentials.header, userAgent, id⟩

end Endpoint

end GaleraHealth
