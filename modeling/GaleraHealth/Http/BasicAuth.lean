import GaleraHealth.Text.Base64
import GaleraHealth.Text.Blank

/-!
# Basic authentication

A client proves who it is by sending its user name and password, joined by a colon, in base64. A
server takes them apart again at the first colon. The values of headers are bytes.
-/

namespace GaleraHealth

/-- A user name and a password. -/
structure Credentials where
  username : String
  password : String
  deriving DecidableEq, Repr

namespace Credentials

/-- What the header begins with. -/
def scheme : List UInt8 := "Basic ".toUTF8.toList

def joined (c : Credentials) : String := c.username ++ ":" ++ c.password

def header (c : Credentials) : List UInt8 :=
  scheme ++ Base64.encode c.joined.toUTF8.toList

/-- The parts of a text before and after its first colon. -/
def ofJoined? (cs : List Char) : Option Credentials :=
  match cs.span (· != ':') with
  | (_, []) => none
  | (name, _ :: password) => some ⟨String.ofList name, String.ofList password⟩

/-- Visible ASCII and the tab, the only bytes of a header that is read as text. -/
def isVisible (b : UInt8) : Bool := (32 ≤ b && b < 127) || b == 9

def isSpace (b : UInt8) : Bool := b == 32 || b == 9

/-- The credentials in a header. White space around the base64 text does not count. -/
def ofHeader? (header : List UInt8) : Option Credentials := do
  if !header.all isVisible || !scheme.isPrefixOf header then none
  let bytes ← Base64.decode? (Text.trimEnds isSpace (header.drop scheme.length))
  let text ← String.fromUTF8? ⟨bytes.toArray⟩
  ofJoined? text.toList

end Credentials

end GaleraHealth
