import GaleraHealth.Http.Message
import GaleraHealth.Net.SocketAddress
import GaleraHealth.Tls.Der

/-!
# What clients find around them

A client of an agent needs a few things that it does not make itself: addresses for names, a
library that makes connections and checks certificates, and the machines at the other end.
-/

namespace GaleraHealth

/-- Which certificates a client trusts. -/
inductive Trust where
  /-- Those that its library brings. -/
  | usual
  | only (roots : List (List UInt8))
  deriving DecidableEq, Repr

/-- What a client finds around it. -/
structure Surroundings where
  link : Link
  /-- The addresses of a host, or why they cannot be found. -/
  lookup : String → UInt16 → Except String (List Net.SocketAddress)
  /-- Makes a client that trusts these certificates, or says why there cannot be one. -/
  client : Trust → Except String Unit
  /-- What is replied at a URL, by the machine at an address if one is given. -/
  reply : Option Net.SocketAddress → Net.Url → Reply

/-- Makes clients that trust whatever has the outer form of a certificate. -/
def Trust.byForm : Trust → Except String Unit
  | .usual => .ok ()
  | .only roots =>
    if roots.all Der.isCertificate then .ok ()
    else .error "builder error: invalid peer certificate: BadEncoding"

/-- Surroundings in which nobody is reached. -/
def Surroundings.unreachable : Surroundings where
  link := .down
  lookup _ _ := .error "failed to lookup address information: Name or service not known"
  client := Trust.byForm
  reply _ _ := .hangup

end GaleraHealth
