import GaleraHealth.Agent.Bodies
import GaleraHealth.Agent.Fetch

/-!
# Clients of the agents

Each kind of agent is asked at one path. Whatever goes wrong counts as a failure of one kind for
that agent: no endpoint, no answer, or an answer of no use.
-/

namespace GaleraHealth

/-- Why an agent told nothing. -/
inductive AgentFault where
  | noEndpoint (fault : EndpointFault)
  | noAnswer (fault : FetchFault)
  deriving DecidableEq

def AgentFault.message : AgentFault → String
  | .noEndpoint f => f.fullMessage
  | .noAnswer f => f.message

def AgentFault.failure (kind : Failure.Kind) (f : AgentFault) : Failure := ⟨kind, f.message⟩

/-- Asks at an endpoint, if there is one. -/
def ask {α : Type} (endpoint : Except EndpointFault Endpoint) (read? : List UInt8 → Option α)
    (limit : Duration) (w : Surroundings) : Course (Except AgentFault α) :=
  match endpoint with
  | .error f => .after 0 (.error (.noEndpoint f))
  | .ok e => (e.fetch read? limit w).map fun r => r.mapError .noAnswer

variable [Net.NameTable]

namespace AgentSettings

def credentials (a : AgentSettings) : Credentials := ⟨a.username, a.password⟩

/-- Where the galera agent on a host tells the sequence number. -/
def seqnoEndpoint (a : AgentSettings) (w : Surroundings) (host : String) :
    Except EndpointFault Endpoint :=
  Endpoint.build w a.tls host a.port "/sequence_number" a.credentials

/-- Where the disk agent on a host tells its counters. -/
def diskEndpoint (a : AgentSettings) (w : Surroundings) (host : String) :
    Except EndpointFault Endpoint :=
  Endpoint.build w a.tls host a.port "/api/v1/info" a.credentials

def askSequenceNumber (a : AgentSettings) (limit : Duration) (w : Surroundings) (host : String) :
    Course (Except AgentFault SequenceNumber) :=
  ask (a.seqnoEndpoint w host) SequenceNumber.ofBody? limit w

/-- The number that the galera agent on a host tells. -/
def askSeqno (a : AgentSettings) (limit : Duration) (w : Surroundings) (host : String) :
    Course (Except Failure Int64) :=
  (a.askSequenceNumber limit w host).map fun r =>
    (r.map SequenceNumber.value).mapError (AgentFault.failure .agentUnavailable)

def askDisks (a : AgentSettings) (limit : Duration) (w : Surroundings) (host : String) :
    Course (Except Failure DiskPair) :=
  (ask (a.diskEndpoint w host) DiskPair.ofBody? limit w).map fun r =>
    r.mapError (AgentFault.failure .diskLookupFailed)

end AgentSettings

namespace CanarySettings

def credentials (c : CanarySettings) : Credentials := ⟨c.username, c.password⟩

/-- Where the canary tells how it is. It is never asked over TLS. -/
def endpoint (c : CanarySettings) (w : Surroundings) : Except EndpointFault Endpoint :=
  Endpoint.build w .off c.host c.port "/api/v1/status" c.credentials

def limit : Duration := .ofSeconds 10

def askHealth (c : CanarySettings) (limit : Duration) (w : Surroundings) :
    Course (Except Failure Bool) :=
  (ask (c.endpoint w) Canary.healthOfBody? limit w).map fun r =>
    r.mapError (AgentFault.failure .agentUnavailable)

end CanarySettings

end GaleraHealth
