import GaleraHealth.Text.Pieces

/-!
# Request targets

The target of a request is a path with a query, an absolute URL, a host, or an asterisk. Only its
path matters to a router; it is not unescaped. Targets with characters that a URL cannot hold are
refused, and so are methods and headers that no request can carry.
-/

namespace GaleraHealth.Target

/-- A byte as a character. -/
def isByte (b : UInt8) (c : Char) : Bool := b.toNat == c.toNat

def isAlphanumeric (b : UInt8) : Bool :=
  (48 ≤ b && b ≤ 57) || (65 ≤ b && b ≤ 90) || (97 ≤ b && b ≤ 122)

def isOneOf (s : String) (b : UInt8) : Bool := s.toList.any fun c => isByte b c

/-- What a method and the name of a header are made of. -/
def isTokenByte (b : UInt8) : Bool := isAlphanumeric b || isOneOf "!#$%&'*+-.^_`|~" b

/-- A method, or the name of a header. -/
def isToken (s : String) : Bool :=
  let bs := s.toUTF8.toList
  !bs.isEmpty && bs.all isTokenByte

/-- Whether a byte may stand in the value of a header. -/
def isValueByte (b : UInt8) : Bool := (32 ≤ b && b != 127) || b == 9

/-- What a path is made of. Other characters than ASCII are let through. -/
def isPathByte (b : UInt8) : Bool :=
  isAlphanumeric b || 0x7F ≤ b || isOneOf "!$%&'()*+,-./:;=@[\\]^_|~\"\x7b\x7d" b

def isQueryByte (b : UInt8) : Bool :=
  (0x21 ≤ b && b != 0x22 && b != 0x23 && b != 0x3C && b != 0x3E)

/-- What a host with its port and user is made of. -/
def isAuthorityByte (b : UInt8) : Bool := isAlphanumeric b || isOneOf "!$&'()*+,-.:;=@[]_~%" b

def isSchemeByte (b : UInt8) : Bool := isAlphanumeric b || isOneOf "+-." b

/-- The path of a path with a query. A fragment is dropped. -/
def pathOf? (bs : List UInt8) : Option (List UInt8) :=
  let (path, rest) := bs.span fun b => !isByte b '?' && !isByte b '#'
  let query := (rest.drop 1).takeWhile fun b => !isByte b '#'
  if path.all isPathByte && (!rest.head?.any (isByte · '?') || query.all isQueryByte) then some path
  else none

/-- What a reader of a host keeps in mind: colons that count, and what it has met. -/
structure Authority where
  colons : Nat
  opened : Bool
  closed : Bool
  percent : Bool
  /-- Whether the last character was an at sign. -/
  atSign : Bool

/-- One more character of a host. -/
def Authority.next (a : Authority) (b : UInt8) : Option Authority :=
  let a := { a with atSign := isByte b '@' }
  if isByte b ':' then if 8 ≤ a.colons then none else some { a with colons := a.colons + 1 }
  else if isByte b '[' then if a.percent || a.opened then none else some { a with opened := true }
  else if isByte b ']' then
    if !a.opened || a.closed then none
    else some { a with closed := true, colons := 0, percent := false }
  else if isByte b '@' then some { a with colons := 0, percent := false }
  else if isByte b '%' then some { a with percent := true }
  else if isAuthorityByte b then some a
  else none

/-- Whether a text is a host, perhaps with a user and a port. -/
def isAuthority (bs : List UInt8) : Bool :=
  match bs.foldlM Authority.next ⟨0, false, false, false, false⟩ with
  | none => false
  | some a => a.opened == a.closed && a.colons ≤ 1 && !a.atSign && !a.percent

/-- What follows the scheme of an absolute URL; `some none` if there is no scheme. -/
def afterScheme? (bs : List UInt8) : Option (Option (List UInt8)) :=
  let (name, rest) := bs.span isSchemeByte
  if "://".toUTF8.toList.isPrefixOf rest then
    if 64 < name.length then none else some (some (rest.drop 3))
  else some none

def path? (target : String) : Option (List UInt8) :=
  let bs := target.toUTF8.toList
  if bs.isEmpty || 65534 < bs.length then none
  else if target = "*" then some bs
  else if bs.head?.any (isByte · '/') then pathOf? bs
  else
    match afterScheme? bs with
    | none => none
    | some none => if isAuthority bs then some [] else none
    | some (some rest) => do
      let (host, rest) := rest.span fun b => !isOneOf "/?#" b
      if host.isEmpty || !isAuthority host then none
      let path ← pathOf? rest
      return if path.isEmpty then [0x2F] else path

end GaleraHealth.Target
