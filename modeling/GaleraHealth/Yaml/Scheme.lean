import GaleraHealth.Form
import GaleraHealth.Yaml.Node

/-!
# Values in a YAML document

How texts, truth values, numbers, lists and records are read from the nodes of a document. A text
may be any scalar; a truth value or a number has to be plain, or a literal block with the tag of its
kind; an empty node is an empty list and a record without fields.
-/

namespace GaleraHealth.Yaml

/-- A node together with the named nodes of its document. -/
structure Place where
  named : List (Nat × Node)
  node : Node

namespace Place

/-- The node that is meant, behind an alias. -/
def target? (p : Place) : Option Node :=
  match p.node with
  | .alias k => p.named.lookup k
  | n => some n

def string? (p : Place) : Option String :=
  match p.target? with
  | some (.scalar _ _ text) => some text
  | _ => none

/-- The full tag of a kind of values. -/
def fullTag (kind : String) : String := "tag:yaml.org,2002:" ++ kind

/-- The text of a scalar that may be a value of some kind. -/
def textOf? (kind : String) (p : Place) : Option String :=
  match p.target? with
  | some (.scalar _ .plain text) => some text
  | some (.scalar tag .literal text) => if tag = some (fullTag kind) then some text else none
  | _ => none

def bool? (p : Place) : Option Bool :=
  (p.textOf? "bool").bind fun s =>
    if ["true", "True", "TRUE"].contains s then some true
    else if ["false", "False", "FALSE"].contains s then some false
    else none

def isNullWord (s : String) : Bool :=
  ["null", "Null", "NULL", "~"].contains s

/-- The number of a whole number without a sign. Its base stands in front; a decimal one has no
superfluous zero in front. -/
def unsigned? (cs : List Char) : Option Nat :=
  match cs with
  | '0' :: 'x' :: ds => Decimal.naturalInBase? 16 ds
  | '0' :: 'o' :: ds => Decimal.naturalInBase? 8 ds
  | '0' :: 'b' :: ds => Decimal.naturalInBase? 2 ds
  | '0' :: _ :: _ => none
  | ds => Decimal.natural? ds

def natUpTo? (high : Nat) (p : Place) : Option Nat := do
  let s ← p.textOf? "int"
  let cs := match s.toList with
    | '+' :: rest => rest
    | cs => cs
  (unsigned? cs).filter (· ≤ high)

/-- An exponent behind its letter; without a letter it is zero. -/
def exponent? : List Char → Option Int
  | [] => some 0
  | e :: rest =>
    if e = 'e' ∨ e = 'E' then
      match rest with
      | '-' :: ds => (Decimal.natural? ds).map fun n => -Int.ofNat n
      | '+' :: ds => (Decimal.natural? ds).map Int.ofNat
      | ds => (Decimal.natural? ds).map Int.ofNat
    else none

/-- A decimal with an optional fraction and exponent. -/
def decimal? (negative : Bool) (cs : List Char) : Option Float :=
  let whole := cs.takeWhile Char.isDigit
  let behind := cs.dropWhile Char.isDigit
  let pointed := behind.head? == some '.'
  let fraction := if pointed then (behind.drop 1).takeWhile Char.isDigit else []
  let rest := if pointed then (behind.drop 1).dropWhile Char.isDigit else behind
  if whole.isEmpty && fraction.isEmpty then none
  else
    ((exponent? rest).map fun e => Decimal.floatOfParts negative whole fraction e).filter
      Float.isFinite

def isInfinityWord (s : String) : Bool :=
  [".inf", ".Inf", ".INF"].contains s

def isNanWord (s : String) : Bool :=
  [".nan", ".NaN", ".NAN"].contains s

def float? (p : Place) : Option Float :=
  (p.textOf? "float").bind fun s =>
    let negative := s.startsWith "-"
    let unsigned := if negative || s.startsWith "+" then s.toList.drop 1 else s.toList
    if isNanWord s then some (0.0 / 0.0)
    else if isInfinityWord (String.ofList unsigned) then
      some (if negative then -1.0 / 0.0 else 1.0 / 0.0)
    else decimal? negative unsigned

/-- The name of a choice: the text of a scalar, or its tag if the scalar itself says nothing. -/
def name? (p : Place) : Option String :=
  match p.target? with
  | some (.scalar (some tag) style text) =>
    match tag.toList with
    | '!' :: name =>
      if style == .plain && (text.isEmpty || isNullWord text) then some (String.ofList name)
      else none
    | _ => some text
  | some (.scalar none _ text) => some text
  | _ => none

/-- Whether a node stands for nothing. A node with the tag of nothing has to be one of its words. -/
def isNone? (p : Place) : Option Bool :=
  match p.target? with
  | none => none
  | some (.scalar tag .plain text) =>
    match tag with
    | none => some (text.isEmpty || isNullWord text)
    | some t =>
      if t = fullTag "null" then (if isNullWord text then some true else none) else some false
  | some _ => some false

def items? (p : Place) : Option (List Place) :=
  match p.target? with
  | some (.sequence ns) => some (ns.map (⟨p.named, ·⟩))
  | some (.scalar _ .plain "") => some []
  | _ => none

/-- The fields of a record. Every key is a scalar, and the names of the record are written at most
once. -/
def record? (names : List String) (_least : Nat) (p : Place) : Option (List (String × Place)) := do
  let fields ← match p.target? with
    | some (.mapping fs) =>
      fs.mapM fun f =>
        ((⟨p.named, f.1⟩ : Place).string?).map fun k => (k, (⟨p.named, f.2⟩ : Place))
    | some (.scalar _ .plain "") => some []
    | _ => none
  if names.all fun n => (fields.filter fun f => f.1 == n).length ≤ 1 then some fields else none

/-- How records are read from YAML documents. -/
def form : Form Place where
  string? := string?
  bool? := bool?
  natUpTo? := natUpTo?
  float? := float?
  name? := name?
  isNone? := isNone?
  items? := items?
  record? := record?

end Place

/-- A record in the one document of a text. -/
def read? {α : Type} (read : Form Place → Place → Option α) (text : String) : Option α := do
  let d ← document? text
  read Place.form ⟨d.named, d.root⟩

end GaleraHealth.Yaml
