/-!
# Percent escapes

A URL writes a byte as a percent sign and two hexadecimal digits wherever the character itself may
not stand. Each part of a URL has its own set of characters that are escaped; all of them contain
the controls and everything outside ASCII.
-/

namespace GaleraHealth.Net.Escape

/-- Controls, and every character outside ASCII. -/
def isControl (c : Char) : Bool := c.val < 0x20 || 0x7F ≤ c.val

def inFragment (c : Char) : Bool := isControl c || " \"<>`".contains c

def inQuery (c : Char) : Bool := isControl c || " \"#<>'".contains c

def inPath (c : Char) : Bool := inFragment c || "#?\x7b\x7d".contains c

def inUser (c : Char) : Bool := inPath c || "/:;=@[\\]^|".contains c

/-- A hexadecimal digit, a capital if it is a letter. -/
def digit (n : Nat) : Char := if n < 10 then Char.ofNat (48 + n) else Char.ofNat (55 + n)

def ofByte (b : UInt8) : List Char := ['%', digit (b.toNat / 16), digit (b.toNat % 16)]

/-- A text with the characters of a set escaped. -/
def encode (set : Char → Bool) (cs : List Char) : List Char :=
  cs.flatMap fun c => if set c then (String.utf8EncodeChar c).flatMap ofByte else [c]

def value? (b : UInt8) : Option UInt8 :=
  if 48 ≤ b ∧ b ≤ 57 then some (b - 48)
  else if 65 ≤ b ∧ b ≤ 70 then some (b - 55)
  else if 97 ≤ b ∧ b ≤ 102 then some (b - 87)
  else none

/-- Bytes with their escapes resolved. A percent sign without two digits stays. -/
def decode : List UInt8 → List UInt8
  | [] => []
  | [b] => [b]
  | [b, c] => [b, c]
  | b :: c :: d :: rest =>
    match (if b = 37 then value? c else none), value? d with
    | some high, some low => (high * 16 + low) :: decode rest
    | _, _ => b :: decode (c :: d :: rest)
termination_by bs => bs.length

end GaleraHealth.Net.Escape
