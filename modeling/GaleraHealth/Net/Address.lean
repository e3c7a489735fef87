import GaleraHealth.Decimal.Binary
import GaleraHealth.Decimal.Reading
import GaleraHealth.Text.Pieces

/-!
# Internet addresses

IPv4 and IPv6 addresses and their literals. A reader accepts every literal of an address: four
decimal bytes without leading zeros; or eight groups of hexadecimal digits, of which one run may
be left out, and of which the last two may be written as an IPv4 address. A printer writes one of
them: lower case, without leading zeros, and with the first longest run of two or more zero groups
left out.
-/

namespace GaleraHealth.Net

/-- An IPv4 address: four bytes. -/
structure Ipv4 where
  a : UInt8
  b : UInt8
  c : UInt8
  d : UInt8
  deriving DecidableEq, Repr

/-- An IPv6 address: eight groups of sixteen bits. -/
structure Ipv6 where
  groups : List UInt16
  length_groups : groups.length = 8
  deriving DecidableEq

/-- An address of either family. -/
inductive Address where
  | v4 (a : Ipv4)
  | v6 (a : Ipv6)
  deriving DecidableEq

namespace Ipv4

/-- The address with a given 32-bit value. -/
def ofNat (n : Nat) : Ipv4 :=
  ⟨(n >>> 24).toUInt8, (n >>> 16).toUInt8, (n >>> 8).toUInt8, n.toUInt8⟩

/-- Four numbers with points between them. -/
def chars (x : Ipv4) : List Char :=
  Text.joined '.' ([x.a, x.b, x.c, x.d].map fun n => Nat.toDigits 10 n.toNat)

def text (x : Ipv4) : String := String.ofList x.chars

/-- One to three digits up to 255. A zero stands alone. -/
def byte? (cs : List Char) : Option UInt8 :=
  if cs.length ≤ 3 ∧ (cs.head? = some '0' → cs.length = 1) then
    (Decimal.natural? cs).bind fun n => if n ≤ 255 then some n.toUInt8 else none
  else none

def ofChars? (cs : List Char) : Option Ipv4 :=
  match Text.pieces '.' cs with
  | [a, b, c, d] => do return ⟨← byte? a, ← byte? b, ← byte? c, ← byte? d⟩
  | _ => none

end Ipv4

namespace Ipv6

def ofGroups? (gs : List UInt16) : Option Ipv6 :=
  if h : gs.length = 8 then some ⟨gs, h⟩ else none

/-- One to four hexadecimal digits. -/
def group? (cs : List Char) : Option UInt16 :=
  if cs.length ≤ 4 then (Decimal.naturalInBase? 16 cs).map Nat.toUInt16 else none

/-- The two groups of an embedded IPv4 address. -/
def embedded (x : Ipv4) : List UInt16 :=
  [x.a.toUInt16 * 256 + x.b.toUInt16, x.c.toUInt16 * 256 + x.d.toUInt16]

/-- Groups with colons between them; the last piece may be an IPv4 literal. -/
def groupsOfPieces? : List (List Char) → Option (List UInt16)
  | [] => some []
  | [last] => ((Ipv4.ofChars? last).map embedded).or ((group? last).map ([·]))
  | p :: ps => do return (← group? p) :: (← groupsOfPieces? ps)

/-- The groups of a text, which may be empty. -/
def groups? (cs : List Char) : Option (List UInt16) :=
  if cs.isEmpty then some [] else groupsOfPieces? (Text.pieces ':' cs)

/-- Whether a text ends in an IPv4 literal. -/
def endsInIpv4 (cs : List Char) : Bool := cs.contains '.'

/-- The address of a literal. Two colons stand for one or more zero groups, and no IPv4 literal
stands before them. -/
def ofChars? (cs : List Char) : Option Ipv6 :=
  match Text.cutAt? "::".toList cs with
  | none => (groups? cs).bind ofGroups?
  | some (front, back) => do
    if endsInIpv4 front then none
    let f ← groups? front
    let b ← groups? back
    if f.length + b.length ≤ 7 then
      ofGroups? (f ++ List.replicate (8 - f.length - b.length) 0 ++ b)
    else none

/-- The length of the run of zeros at the front. -/
def zeros (gs : List UInt16) : Nat := (gs.takeWhile (· == 0)).length

/-- Where the first longest run of zeros begins, and its length. -/
def longestRun : Nat → List UInt16 → Nat × Nat
  | i, [] => (i, 0)
  | i, g :: gs =>
    let here := zeros (g :: gs)
    let later := longestRun (i + 1) gs
    if later.2 ≤ here then (i, here) else later

/-- Groups in hexadecimal, with colons between them. -/
def groupChars (gs : List UInt16) : List Char :=
  Text.joined ':' (gs.map fun g => Nat.toDigits 16 g.toNat)

/-- The shortest literal of an address. -/
def chars (x : Ipv6) : List Char :=
  let (start, length) := longestRun 0 x.groups
  if 2 ≤ length then
    groupChars (x.groups.take start) ++ "::".toList ++ groupChars (x.groups.drop (start + length))
  else groupChars x.groups

def text (x : Ipv6) : String := String.ofList x.chars

/-- The IPv4 address that is mapped to this one, if it is such an address. -/
def mapped? (x : Ipv6) : Option Ipv4 :=
  match x.groups with
  | [0, 0, 0, 0, 0, 0xffff, g, h] =>
    some ⟨(g >>> 8).toUInt8, g.toUInt8, (h >>> 8).toUInt8, h.toUInt8⟩
  | _ => none

/-- The literal in which a mapped IPv4 address shows as one. -/
def mixedChars (x : Ipv6) : List Char :=
  match x.mapped? with
  | some v => "::ffff:".toList ++ v.chars
  | none => x.chars

end Ipv6

/-- The address of a literal of either family. -/
def Address.ofChars? (cs : List Char) : Option Address :=
  ((Ipv4.ofChars? cs).map .v4).or ((Ipv6.ofChars? cs).map .v6)

end GaleraHealth.Net
