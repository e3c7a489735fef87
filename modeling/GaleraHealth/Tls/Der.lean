import GaleraHealth.Tls.Pem

/-!
# The outer form of certificates and keys

A body of a PEM section is usable when its DER elements have the shape that its kind asks for. Only
the outer elements are looked at: signatures, names and dates are the business of a connection.
-/

namespace GaleraHealth.Der

/-- An element: its tag and its content. -/
structure Element where
  tag : UInt8
  content : List UInt8
  deriving DecidableEq, Repr

/-- A number in a row of bytes, the highest first. -/
def bigEndian (bs : List UInt8) : Nat :=
  bs.foldl (fun n b => n * 256 + b.toNat) 0

/-- The element at the start of a row of bytes, and what follows it. A length is written in as few
bytes as it takes. -/
def element? : List UInt8 → Option (Element × List UInt8)
  | tag :: first :: rest =>
    if first < 0x80 then
      if first.toNat ≤ rest.length then
        some (⟨tag, rest.take first.toNat⟩, rest.drop first.toNat)
      else none
    else
      let k := first.toNat - 0x80
      let n := bigEndian (rest.take k)
      let rest := rest.drop k
      if 1 ≤ k ∧ k ≤ 4 ∧ 0x80 ≤ n ∧ Nat.pow 256 (k - 1) ≤ n ∧ n ≤ rest.length then
        some (⟨tag, rest.take n⟩, rest.drop n)
      else none
  | _ => none

/-- The elements that a row of bytes consists of. -/
def elementsFrom? : Nat → List UInt8 → Option (List Element)
  | _, [] => some []
  | 0, _ => none
  | fuel + 1, bs => do
    let (e, rest) ← element? bs
    let es ← elementsFrom? fuel rest
    return e :: es

/-- The elements that a row of bytes consists of. -/
def elements? (bs : List UInt8) : Option (List Element) :=
  elementsFrom? bs.length bs

def integer : UInt8 := 0x02
def bitString : UInt8 := 0x03
def octetString : UInt8 := 0x04
def sequence : UInt8 := 0x30

/-- The members of the one sequence that a row of bytes consists of. -/
def sequence? (bs : List UInt8) : Option (List Element) := do
  match ← elements? bs with
  | [e] => if e.tag = sequence then elements? e.content else none
  | _ => none

/-- Whether the tags of a row of elements start with the given ones. -/
def tagsStart (tags : List UInt8) (es : List Element) : Bool :=
  tags.isPrefixOf (es.map Element.tag)

/-- The outer form of a certificate: its content, the algorithm of its signature, and the signature.
The content has a version, a serial number, an algorithm, an issuer, dates, a subject and a key.
Whether a library takes such a body for a certificate is its own business. -/
def isCertificate (bs : List UInt8) : Bool :=
  match sequence? bs with
  | some [content, algorithm, signature] =>
    content.tag == sequence && algorithm.tag == sequence && signature.tag == bitString &&
      (elements? content.content).any fun es =>
        tagsStart [0xA0, integer, sequence, sequence, sequence, sequence, sequence] es
  | _ => false

/-- A private key: a version, and what its kind has behind it. -/
def isPrivateKey (kind : Pem.Kind) (bs : List UInt8) : Bool :=
  (sequence? bs).any fun es =>
    match kind with
    | .privateKey => tagsStart [integer, sequence, octetString] es
    | .ecPrivateKey => tagsStart [integer, octetString] es
    | .rsaPrivateKey => tagsStart (List.replicate 9 integer) es
    | _ => false

end GaleraHealth.Der
