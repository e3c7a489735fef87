import GaleraHealth.Http.BasicAuth
import GaleraHealth.Net.Url

/-!
# Requests and replies

What a client sends to an agent, and what comes back: an answer, or nothing at all.
-/

namespace GaleraHealth

/-- An identifier of a request: 128 bits, most of them random. -/
structure RequestId where
  bits : Nat
  deriving DecidableEq, Repr

namespace RequestId

/-- The identifier of 128 random bits, six of which are given over to its version and variant. -/
def ofRandom (bits : Nat) : RequestId :=
  let low := bits % 0x4000000000000000 + 0x8000000000000000
  let middle := bits >>> 64 % 0x1000 + 0x4000
  let high := bits >>> 80 % 0x1000000000000
  ⟨high <<< 80 + middle <<< 64 + low⟩

/-- The hexadecimal digits of an identifier, grouped by hyphens. -/
def text (r : RequestId) : String :=
  let digits := Nat.toDigits 16 r.bits
  let all := List.replicate (32 - digits.length) '0' ++ digits
  String.ofList (all.take 8 ++ '-' :: (all.drop 8).take 4 ++ '-' :: (all.drop 12).take 4 ++
    '-' :: (all.drop 16).take 4 ++ '-' :: all.drop 20)

/-- Whether version and variant say that an identifier is random. -/
def isRandom (r : RequestId) : Bool :=
  r.bits >>> 76 % 16 == 4 && r.bits >>> 62 % 4 == 2 && r.bits >>> 128 == 0

end RequestId

/-- What a client asks an agent for. -/
structure Request where
  method : String
  url : Net.Url
  authorization : List UInt8
  userAgent : String
  id : RequestId

/-- What comes back. -/
inductive Reply where
  /-- The connection is closed without an answer. -/
  | hangup
  /-- Nothing comes, for however long. -/
  | silent
  /-- No connection comes about, or none that is trusted, or it breaks for this reason. -/
  | unreached (why : String)
  | answered (status : UInt16) (body : List UInt8)
  /-- An answer begins, and its body breaks off. -/
  | brokenOff (status : UInt16) (why : String)
  /-- An answer begins, and the rest of its body never comes. -/
  | stalled (status : UInt16)
  /-- The answer is to be looked for at another place. -/
  | elsewhere (url : Net.Url)
  deriving DecidableEq

/-- Statuses whose answers have no body. -/
def hasNoBody (status : UInt16) : Bool := status == 204 || status == 304

/-- Whether there is a way to other machines at all. -/
inductive Link where
  | up
  | down
  deriving DecidableEq, Repr

end GaleraHealth
