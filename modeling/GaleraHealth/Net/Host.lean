import GaleraHealth.Net.Address
import GaleraHealth.Net.Domain
import GaleraHealth.Net.Escape

/-!
# Hosts of URLs

A host is an address or a domain name. In brackets stands an IPv6 literal. A name whose last label
is a number is an IPv4 address, of up to four numbers in base ten, eight or sixteen, of which the
last one fills the bytes that are left.
-/

namespace GaleraHealth.Net

/-- A host in its normal form. -/
inductive Host where
  | domain (name : List Char)
  | v4 (address : Ipv4)
  | v6 (address : Ipv6)
  deriving DecidableEq

/-- Why a text makes no URL. -/
inductive UrlFault where
  | emptyHost
  | badDomain
  | badIpv4
  | badIpv6
  | badPort
  deriving DecidableEq, Repr

def UrlFault.message : UrlFault → String
  | .emptyHost => "empty host"
  | .badDomain => "invalid international domain name"
  | .badIpv4 => "invalid IPv4 address"
  | .badIpv6 => "invalid IPv6 address"
  | .badPort => "invalid port number"

namespace Host

/-- A value, or the fault that there is none. -/
def orFault {α : Type} (fault : UrlFault) (a : Option α) : Except UrlFault α :=
  match a with
  | some a => .ok a
  | none => .error fault

def chars : Host → List Char
  | .domain name => name
  | .v4 a => a.chars
  | .v6 a => '[' :: a.chars ++ [']']

/-- A number of an IPv4 address: `0x` marks base sixteen and a zero in front base eight. A mark
alone is zero. -/
def number? (cs : List Char) : Option Nat :=
  match cs with
  | [] => none
  | '0' :: 'x' :: rest | '0' :: 'X' :: rest =>
    if rest.isEmpty then some 0 else Decimal.naturalInBase? 16 rest
  | '0' :: d :: rest => Decimal.naturalInBase? 8 (d :: rest)
  | _ => Decimal.natural? cs

/-- The parts between points, without an empty one at the end. -/
def parts (name : List Char) : List (List Char) :=
  match (Text.pieces '.' name).reverse with
  | [] :: rest => rest.reverse
  | all => all.reverse

/-- Whether a name is to be read as an IPv4 address. -/
def endsInNumber (name : List Char) : Bool :=
  match (parts name).getLast? with
  | none => false
  | some [] => false
  | some last => last.all Char.isDigit || (number? last).isSome

/-- The value of numbers of which the last one fills the bytes that are left. -/
def valueOfNumbers? (ns : List Nat) : Option Nat :=
  match ns.reverse with
  | [] => none
  | last :: front =>
    if 4 < ns.length ∨ Nat.pow 256 (5 - ns.length) ≤ last ∨ front.any (255 < ·) then none
    else
      let weighted := front.reverse.zip [0x1000000, 0x10000, 0x100]
      some (last + weighted.foldl (fun s (n, w) => s + n * w) 0)

/-- The address of a name that ends in a number. -/
def ipv4? (name : List Char) : Option Ipv4 := do
  let ns ← (parts name).mapM number?
  return Ipv4.ofNat (← valueOfNumbers? ns)

/-- The name in a text in which escapes count. -/
def name? [NameTable] (cs : List Char) : Option (List Char) := do
  let bytes := Escape.decode (cs.flatMap String.utf8EncodeChar)
  let text ← String.fromUTF8? ⟨bytes.toArray⟩
  Domain.normal? text.toList

def read [NameTable] (cs : List Char) : Except UrlFault Host :=
  match cs with
  | [] => .error .emptyHost
  | '[' :: rest =>
    match rest.reverse with
    | ']' :: inside => (orFault .badIpv6 (Ipv6.ofChars? inside.reverse)).map .v6
    | _ => .error .badIpv6
  | _ => do
    let name ← orFault .badDomain (name? cs)
    if name.isEmpty then throw .emptyHost
    if endsInNumber name then (orFault .badIpv4 (ipv4? name)).map .v4 else return .domain name

end Host

end GaleraHealth.Net
