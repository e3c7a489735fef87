import GaleraHealth.Net.Host

/-!
# URLs of web servers

A URL is read as browsers read it: tabs and line ends in it do not count, a backslash is a slash,
the path is resolved and escaped, the host is brought into its normal form, and a port that the
scheme has anyhow is left out. Reading always takes an absolute text, whose scheme is known.
-/

namespace GaleraHealth.Net

/-- How a server is spoken to. -/
inductive Scheme where
  | http
  | https
  deriving DecidableEq, Repr

def Scheme.name : Scheme → String
  | .http => "http"
  | .https => "https"

/-- The port of a URL that names none. -/
def Scheme.port : Scheme → UInt16
  | .http => 80
  | .https => 443

/-- A URL in its parts. The texts are escaped. -/
structure Url where
  scheme : Scheme
  username : List Char
  password : List Char
  host : Host
  /-- The port, unless it is the scheme's own. -/
  ownPort : Option UInt16
  /-- The pieces of the path, each of which follows a slash. -/
  path : List (List Char)
  query : Option (List Char)
  fragment : Option (List Char)
  deriving DecidableEq

namespace Url

/-- The port to connect to. -/
def port (u : Url) : UInt16 := u.ownPort.getD u.scheme.port

def pathChars (u : Url) : List Char := u.path.flatMap ('/' :: ·)

/-- Name and password before the host, if there are any. -/
def userChars (u : Url) : List Char :=
  if u.username.isEmpty && u.password.isEmpty then []
  else
    u.username ++ (if u.password.isEmpty then [] else ':' :: u.password) ++ ['@']

def chars (u : Url) : List Char :=
  u.scheme.name.toList ++ "://".toList ++ u.userChars ++ u.host.chars ++
    (u.ownPort.map fun p => ':' :: Nat.toDigits 10 p.toNat).getD [] ++ u.pathChars ++
    (u.query.map ('?' :: ·)).getD [] ++ (u.fragment.map ('#' :: ·)).getD []

def text (u : Url) : String := String.ofList u.chars

/-! ### Reading -/

/-- Tabs and line ends, which do not count. -/
def isIgnored (c : Char) : Bool := c == '\t' || c == '\n' || c == '\r'

/-- A text without what does not count, and without controls and spaces at its end. -/
def cleaned (cs : List Char) : List Char :=
  (cs.reverse.dropWhile fun c => c.val ≤ 0x20).reverse.filter fun c => !isIgnored c

def isSlash (c : Char) : Bool := c == '/' || c == '\\'

/-- Whether a character ends the part with the host. -/
def endsAuthority (c : Char) : Bool := isSlash c || c == '?' || c == '#'

/-- What stands before and after the last at sign, if there is one. -/
def splitUser (authority : List Char) : Option (List Char) × List Char :=
  let (host, user) := authority.reverse.span (· != '@')
  (if user.isEmpty then none else some (user.drop 1).reverse, host.reverse)

/-- User name and password, which follows the first colon. -/
def credentials (user : List Char) : List Char × List Char :=
  let (name, rest) := user.span (· != ':')
  (Escape.encode Escape.inUser name, Escape.encode Escape.inUser (rest.drop 1))

/-- Splits a host from the rest at the first colon outside brackets. -/
def splitHost : Bool → List Char → List Char × List Char
  | _, [] => ([], [])
  | inside, c :: rest =>
    if c = ':' ∧ !inside then ([], c :: rest)
    else
      let inside := if c = '[' then true else if c = ']' then false else inside
      let (host, more) := splitHost inside rest
      (c :: host, more)

/-- The port after a host; no digits mean no port, and neither does the scheme's own. -/
def readPort (scheme : Scheme) : List Char → Except UrlFault (Option UInt16)
  | [] | [_] => .ok none
  | _ :: digits =>
    match Decimal.natural? digits with
    | none => .error .badPort
    | some n =>
      if 65535 < n then .error .badPort
      else if n = scheme.port.toNat then .ok none
      else .ok (some n.toUInt16)

/-- The pieces of a text between slashes of either kind. -/
def segments (cs : List Char) : List (List Char) :=
  Text.pieces '/' (cs.map fun c => if isSlash c then '/' else c)

/-- A piece that stands for the same place. -/
def isSame (piece : List Char) : Bool :=
  [".", "%2e"].contains (String.ofList (piece.map Char.toLower))

/-- A piece that stands for the place above. -/
def isAbove (piece : List Char) : Bool :=
  ["..", ".%2e", "%2e.", "%2e%2e"].contains (String.ofList (piece.map Char.toLower))

/-- The path that the pieces lead to, from the pieces gone so far, last first. -/
def resolve : List (List Char) → List (List Char) → List (List Char)
  | gone, [] => gone.reverse
  | gone, [last] =>
    if isAbove last then ([] :: gone.drop 1).reverse
    else if isSame last then ([] :: gone).reverse
    else (last :: gone).reverse
  | gone, piece :: next :: rest =>
    if isAbove piece then resolve (gone.drop 1) (next :: rest)
    else if isSame piece then resolve gone (next :: rest)
    else resolve (piece :: gone) (next :: rest)

/-- The path of a text that may begin with a slash. -/
def readPath (cs : List Char) : List (List Char) :=
  let cs := match cs with
    | c :: rest => if isSlash c then rest else cs
    | [] => []
  resolve [] (segments (Escape.encode Escape.inPath cs))

/-- What stands before a mark, and what stands after it if it is there. -/
def splitAt (mark : Char) (cs : List Char) : List Char × Option (List Char) :=
  let (front, rest) := cs.span (· != mark)
  (front, if rest.isEmpty then none else some (rest.drop 1))

/-- The URL of a scheme and the text after its colon. -/
def read [NameTable] (scheme : Scheme) (cs : List Char) : Except UrlFault Url := do
  let cs := (cleaned cs).dropWhile isSlash
  let (authority, rest) := cs.span (!endsAuthority ·)
  let (user, place) := splitUser authority
  let (username, password) := credentials (user.getD [])
  let (hostText, portText) := splitHost false place
  let host ← Host.read hostText
  let port ← readPort scheme portText
  let (rest, fragment) := splitAt '#' rest
  let (path, query) := splitAt '?' rest
  return {
    scheme, username, password, host, path := readPath path
    ownPort := port
    query := query.map (Escape.encode Escape.inQuery)
    fragment := fragment.map (Escape.encode Escape.inFragment) }

/-- A host as it stands in a URL: an IPv6 literal gets its brackets. -/
def hostText (host : String) : List Char :=
  match Ipv6.ofChars? host.toList with
  | some _ => '[' :: host.toList ++ [']']
  | none => host.toList

/-- The URL of a place on a server. -/
def ofParts [NameTable] (scheme : Scheme) (host : String) (port : UInt16) (path : String) :
    Except UrlFault Url :=
  read scheme
    ("//".toList ++ hostText host ++ ':' :: Nat.toDigits 10 port.toNat ++ path.toList)

end Url

end GaleraHealth.Net
