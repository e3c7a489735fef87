import GaleraHealth.Net.Address

/-!
# Socket addresses

An address and a port, as a server is told where to listen. An IPv6 address stands in brackets,
together with its zone if it has one, so that the colon before the port stays apart from its own.
-/

namespace GaleraHealth.Net

/-- Where a server listens. -/
inductive SocketAddress where
  | v4 (address : Ipv4) (port : UInt16)
  /-- The zone is the number of a network interface, and zero if there is none. -/
  | v6 (address : Ipv6) (zone : UInt32) (port : UInt16)
  deriving DecidableEq

namespace SocketAddress

def port : SocketAddress → UInt16
  | .v4 _ p => p
  | .v6 _ _ p => p

/-- The address without its port and zone. -/
def address : SocketAddress → Address
  | .v4 a _ => .v4 a
  | .v6 a _ _ => .v6 a

/-- A decimal number up to a bound, without a sign. -/
def number? (high : Nat) (cs : List Char) : Option Nat :=
  (Decimal.natural? cs).filter (· ≤ high)

/-- A port: decimal digits, of which the first may be zeros. -/
def port? (cs : List Char) : Option UInt16 := (number? 65535 cs).map Nat.toUInt16

/-- What stands in the brackets: an address, and the zone after a percent sign. -/
def zoned? (cs : List Char) : Option (Ipv6 × UInt32) :=
  match Text.cutAt? ['%'] cs with
  | none => (Ipv6.ofChars? cs).map (·, 0)
  | some (address, zone) => do
    return (← Ipv6.ofChars? address, (← number? 0xFFFFFFFF zone).toUInt32)

def ofChars? : List Char → Option SocketAddress
  | '[' :: rest =>
    match Text.cutAt? "]:".toList rest with
    | none => none
    | some (inside, port) => do
      let (a, zone) ← zoned? inside
      return .v6 a zone (← port? port)
  | cs =>
    match Text.cutAt? [':'] cs with
    | none => none
    | some (address, port) => do return .v4 (← Ipv4.ofChars? address) (← port? port)

def ofText? (s : String) : Option SocketAddress := ofChars? s.toList

def text : SocketAddress → String
  | .v4 a p => a.text ++ ":" ++ Decimal.natText p.toNat
  | .v6 a zone p =>
    let zoneText := if zone = 0 then "" else "%" ++ Decimal.natText zone.toNat
    "[" ++ String.ofList a.mixedChars ++ zoneText ++ "]:" ++ Decimal.natText p.toNat

end SocketAddress

end GaleraHealth.Net
