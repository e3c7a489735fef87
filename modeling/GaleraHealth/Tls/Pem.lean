import GaleraHealth.Text.Base64
import GaleraHealth.Decimal.Binary
import GaleraHealth.Text.Quoted

/-!
# PEM texts

A PEM text holds sections between a `BEGIN` and an `END` line, each with a label and a base64 body;
everything outside of sections is passed over. Sections are read one after the other, so a reader
may stop before a later fault.
-/

namespace GaleraHealth.Pem

/-- The kinds of section whose body is read. -/
inductive Kind where
  | certificate
  | publicKey
  | rsaPrivateKey
  | privateKey
  | ecPrivateKey
  | crl
  | certificateRequest
  | echConfig
  deriving DecidableEq, Repr

/-- The labels of the known kinds; a section with another label is passed over unread. -/
def Kind.labels : List (String × Kind) :=
  [("CERTIFICATE", .certificate), ("PUBLIC KEY", .publicKey),
    ("RSA PRIVATE KEY", .rsaPrivateKey), ("PRIVATE KEY", .privateKey),
    ("EC PRIVATE KEY", .ecPrivateKey), ("X509 CRL", .crl),
    ("CERTIFICATE REQUEST", .certificateRequest), ("ECHCONFIG", .echConfig)]

def Kind.isKey : Kind → Bool
  | .rsaPrivateKey | .privateKey | .ecPrivateKey => true
  | _ => false

/-- A section: its kind and the bytes of its body. -/
structure Section where
  kind : Kind
  body : List UInt8
  deriving DecidableEq, Repr

/-- What can be wrong with a PEM text. -/
inductive Fault where
  /-- A `BEGIN` line does not end in five dashes. -/
  | illegalStart (line : String)
  /-- The text ends inside a section. -/
  | missingEnd (label : String)
  /-- A byte that is no base64 symbol. -/
  | invalidCharacter (byte : UInt8)
  /-- Padding before the last group of symbols. -/
  | prematurePadding
  /-- The last group is cut short or wrongly padded. -/
  | invalidTrailingPadding
  deriving DecidableEq, Repr

def Fault.message : Fault → String
  | .illegalStart line => "illegal section start: " ++ Text.quoted line
  | .missingEnd label => "section end " ++ Text.quoted label ++ " missing"
  | .invalidCharacter byte => "InvalidCharacter(" ++ Decimal.natText byte.toNat ++ ")"
  | .prematurePadding => "PrematurePadding"
  | .invalidTrailingPadding => "InvalidTrailingPadding"

/-! ### Bodies -/

/-- White space inside a body. -/
def isSpace (b : UInt8) : Bool :=
  (9 ≤ b && b ≤ 13) || b == 0x20

/-- The bytes of a last group. It may lack its padding, and its unused bits do not matter. -/
def lastGroup : List (Option Nat) → Except Fault (List UInt8)
  | [] => .ok []
  | [some x, some y, some z, some w] => .ok (Base64.three x y z w)
  | [some x, some y, some z, none] | [some x, some y, some z] =>
    .ok ((Base64.three x y z 0).take 2)
  | [some x, some y, none, none] | [some x, some y] => .ok ((Base64.three x y 0 0).take 1)
  | _ => .error .invalidTrailingPadding

/-- The bytes of a body, given the symbols of the group so far. Padding is `none`. -/
def bodyFrom : List (Option Nat) → List UInt8 → Except Fault (List UInt8)
  | group, [] => lastGroup group
  | group, b :: rest =>
    if isSpace b then bodyFrom group rest
    else
      match Base64.value? b, b == Base64.pad with
      | none, false => .error (.invalidCharacter b)
      | v, _ =>
        if group.length < 4 then bodyFrom (group ++ [v]) rest
        else
          match group with
          | [some x, some y, some z, some w] =>
            (bodyFrom [v] rest).map (Base64.three x y z w ++ ·)
          | _ => .error .prematurePadding

/-- The bytes of a body. -/
def body (bs : List UInt8) : Except Fault (List UInt8) :=
  bodyFrom [] bs

/-! ### Lines -/

/-- The lines of a text, each with its line end: a line feed or a carriage return. -/
def lines : List Char → List (List Char)
  | [] => []
  | c :: rest =>
    if c = '\n' ∨ c = '\r' then [c] :: lines rest
    else
      match lines rest with
      | [] => [[c]]
      | l :: ls => (c :: l) :: ls

/-- The part of a line after a given start, if it has that start. -/
def after? : List Char → List Char → Option (List Char)
  | [], rest => some rest
  | _ :: _, [] => none
  | a :: as, b :: bs => if a = b then after? as bs else none

/-- The label of a line that opens a section. At its end stand five dashes, among which line ends
and spaces do not count. -/
def label? (opened : List Char) : Option (List Char) :=
  let skipped (c : Char) : Bool := c == '-' || c == '\n' || c == '\r' || c == ' '
  let tail := opened.reverse.takeWhile skipped
  let dashes := tail.reverse.dropWhile (· != '-')
  if tail.count '-' = 5 then some (opened.take (opened.length - dashes.length)) else none

/-- A section that has been opened: its label, and what of its body has been read. -/
structure Opened where
  label : List Char
  text : List Char

/-- What a reader knows after the next sections: a section, the end of the text, or a fault. -/
inductive Next where
  | found (s : Section) (rest : List (List Char))
  | finished
  | faulty (f : Fault)

/-- Reads lines up to the end of the next section of a known kind. -/
def next : Option Opened → List (List Char) → Next
  | none, [] => .finished
  | some o, [] => .faulty (.missingEnd (String.ofList o.label))
  | o, line :: rest =>
    match after? "-----BEGIN ".toList line with
    | some opened =>
      match label? opened with
      | none => .faulty (.illegalStart (String.ofList line))
      | some label => next (some ⟨label, (o.map Opened.text).getD []⟩) rest
    | none =>
      match o with
      | none => next none rest
      | some o =>
        if ("-----END ".toList ++ o.label ++ "-----".toList).isPrefixOf line then
          match Kind.labels.lookup (String.ofList o.label) with
          | none => next none rest
          | some kind =>
            match body (String.ofList o.text).toUTF8.toList with
            | .ok bytes => .found ⟨kind, bytes⟩ rest
            | .error f => .faulty f
        else next (some ⟨o.label, o.text ++ line⟩) rest

/-- The sections of a text in order, and the fault that ends them, if one does. Every section takes
at least a line, so the number of lines bounds the steps. -/
def sectionsFrom : Nat → List (List Char) → List Section × Option Fault
  | 0, _ => ([], none)
  | fuel + 1, ls =>
    match next none ls with
    | .finished => ([], none)
    | .faulty f => ([], some f)
    | .found s rest =>
      let (more, fault) := sectionsFrom fuel rest
      (s :: more, fault)

/-- The sections of a text up to its first fault. -/
def sections (s : String) : List Section × Option Fault :=
  let ls := lines s.toList
  sectionsFrom (ls.length + 1) ls

/-- The bodies of all certificates, unless the text has a fault anywhere. -/
def certificates (s : String) : Except Fault (List (List UInt8)) :=
  match sections s with
  | (_, some f) => .error f
  | (ss, none) => .ok ((ss.filter fun x => x.kind == .certificate).map Section.body)

/-- The first private key; a fault behind it does not matter. -/
def firstKey (s : String) : Except Fault (Option Section) :=
  match sections s with
  | (ss, fault) =>
    match ss.find? fun x => x.kind.isKey, fault with
    | some x, _ => .ok (some x)
    | none, some f => .error f
    | none, none => .ok none

end GaleraHealth.Pem
