import GaleraHealth.Yaml.Token

/-!
# The nodes of a YAML document

A document is a tree of scalars, sequences and mappings, in which an alias stands for a node that
was named before it. The tree is read from tokens by recursion on fuel: every step takes a token or
leaves a level of the tree, so a small multiple of the number of tokens is always enough.
-/

namespace GaleraHealth.Yaml

/-- A node. A scalar without a tag has none of its own; tags of collections do not matter here. -/
inductive Node where
  | scalar (tag : Option String) (style : Style) (text : String)
  | sequence (items : List Node)
  | mapping (fields : List (Node × Node))
  /-- The node that was given this number when it was named. -/
  | alias (number : Nat)
  deriving Inhabited

/-- A node that is not written. -/
def Node.empty : Node := .scalar none .plain ""

/-- A document: its tree, and the nodes that aliases stand for. -/
structure Document where
  root : Node
  named : List (Nat × Node)

/-- The tokens that are left, and what has been named. -/
structure Reading where
  tokens : List Token
  /-- The numbers that names stand for, the latest first. -/
  names : List (String × Nat)
  named : List (Nat × Node)
  /-- What the handles of tags stand for. -/
  handles : List (String × String)

/-- A step of reading. -/
abbrev Read := StateT Reading Option

namespace Read

def peek? : Read (Option Token) := do return (← get).tokens.head?

def skip : Read Unit := modify fun r => { r with tokens := r.tokens.drop 1 }

/-- Past the next token if it is the given one. -/
def accept (t : Token) : Read Bool := do
  if (← peek?) == some t then
    skip
    return true
  else return false

/-- Whether the next token is one of the given ones. -/
def sees (ts : List Token) : Read Bool := do
  return (← peek?).any ts.contains

/-- The tag that a handle and the text after it stand for. -/
def resolve (handle rest : String) : Read String := do
  if handle.isEmpty then return rest
  else
    match (← get).handles.lookup handle with
    | some start => return start ++ rest
    | none => failure

/-- The tag in front of a node, if there is one. -/
def tag? : Read (Option String) := do
  match ← peek? with
  | some (.tag handle rest) =>
    skip
    return some (← resolve handle rest)
  | _ => return none

/-- The name in front of a node, if there is one. -/
def anchor? : Read (Option String) := do
  match ← peek? with
  | some (.anchor name) =>
    skip
    return some name
  | _ => return none

/-- The name and the tag in front of a node, in either order. -/
def properties : Read (Option String × Option String) := do
  match ← anchor? with
  | some name => return (some name, ← tag?)
  | none =>
    let tag ← tag?
    return (← anchor?, tag)

/-- Gives a name the next number. -/
def enter (name : Option String) : Read (Option Nat) := do
  match name with
  | none => return none
  | some name =>
    let number := (← get).names.length
    modify fun r => { r with names := (name, number) :: r.names }
    return some number

/-- Notes the node that a number stands for. -/
def leave (number : Option Nat) (n : Node) : Read Node := do
  match number with
  | none => return n
  | some k =>
    modify fun r => { r with named := (k, n) :: r.named }
    return n

mutual

/-- A node. Inside of a block it may be a block itself, and as the value of a key it may be a
sequence that is not indented. -/
def node : Nat → Bool → Bool → Read Node
  | 0, _, _ => failure
  | fuel + 1, inBlock, flush => do
    if let some (.alias name) ← peek? then
      skip
      match (← get).names.lookup name with
      | some number => return .alias number
      | none => failure
    else
      let (name, tag) ← properties
      let number ← enter name
      let n ← content fuel inBlock flush (name.isSome || tag.isSome) tag
      leave number n

/-- A node without its properties. It may be missing if it has some. -/
def content : Nat → Bool → Bool → Bool → Option String → Read Node
  | 0, _, _, _, _ => failure
  | fuel + 1, inBlock, flush, marked, tag => do
    match ← peek? with
    | some .entry =>
      if flush then return .sequence (← flushItems fuel) else missing marked tag
    | some (.scalar style text) =>
      skip
      return .scalar (tag.filter (· != "!")) style text
    | some .flowSequence =>
      skip
      return .sequence (← flowItems fuel true)
    | some .flowMapping =>
      skip
      return .mapping (← flowFields fuel true)
    | some .blockSequence =>
      if inBlock then
        skip
        return .sequence (← blockItems fuel)
      else missing marked tag
    | some .blockMapping =>
      if inBlock then
        skip
        return .mapping (← blockFields fuel)
      else missing marked tag
    | _ => missing marked tag

/-- A node that is not there. -/
def missing : Bool → Option String → Read Node
  | true, tag => return .scalar tag .plain ""
  | false, _ => failure

def blockItems : Nat → Read (List Node)
  | 0 => failure
  | fuel + 1 => do
    if ← accept .entry then
      let n ← if ← sees [.entry, .blockEnd] then pure Node.empty else node fuel true false
      return n :: (← blockItems fuel)
    else if ← accept .blockEnd then return []
    else failure

/-- The items of a sequence that is not indented. -/
def flushItems : Nat → Read (List Node)
  | 0 => failure
  | fuel + 1 => do
    if ← accept .entry then
      let n ← if ← sees [.entry, .key, .value, .blockEnd] then pure Node.empty
        else node fuel true false
      return n :: (← flushItems fuel)
    else return []

def blockFields : Nat → Read (List (Node × Node))
  | 0 => failure
  | fuel + 1 => do
    if ← accept .key then
      let k ← if ← sees [.key, .value, .blockEnd] then pure Node.empty else node fuel true true
      let v ← if ← accept .value then
          if ← sees [.key, .value, .blockEnd] then pure Node.empty else node fuel true true
        else pure Node.empty
      return (k, v) :: (← blockFields fuel)
    else if ← accept .blockEnd then return []
    else failure

/-- The items of a flow sequence. A field among them is a mapping of its own. -/
def flowItems : Nat → Bool → Read (List Node)
  | 0, _ => failure
  | fuel + 1, first => do
    if ← accept .flowSequenceEnd then return []
    else
      if !first then
        if !(← accept .comma) then failure
      if ← accept .key then
        let k ← if ← sees [.value, .comma, .flowSequenceEnd] then do
            skip
            pure Node.empty
          else node fuel false false
        let v ← if ← accept .value then
            if ← sees [.comma, .flowSequenceEnd] then pure Node.empty else node fuel false false
          else pure Node.empty
        return .mapping [(k, v)] :: (← flowItems fuel false)
      else if ← accept .flowSequenceEnd then return []
      else
        let n ← node fuel false false
        return n :: (← flowItems fuel false)

def flowFields : Nat → Bool → Read (List (Node × Node))
  | 0, _ => failure
  | fuel + 1, first => do
    if ← accept .flowMappingEnd then return []
    else
      if !first then
        if !(← accept .comma) then failure
      if ← accept .key then
        let k ← if ← sees [.value, .comma, .flowMappingEnd] then pure Node.empty
          else node fuel false false
        let v ← if ← accept .value then
            if ← sees [.comma, .flowMappingEnd] then pure Node.empty else node fuel false false
          else pure Node.empty
        return (k, v) :: (← flowFields fuel false)
      else if ← accept .flowMappingEnd then return []
      else
        let k ← node fuel false false
        return (k, .empty) :: (← flowFields fuel false)

end

/-- The directives in front of a document. A version may be given once, and so may each handle. -/
def directives : Nat → Bool → Read Unit
  | 0, _ => failure
  | fuel + 1, versioned => do
    match ← peek? with
    | some (.version major minor) =>
      skip
      if versioned || major != 1 || (minor != 1 && minor != 2) then failure
      else directives fuel true
    | some (.tagDirective handle start) =>
      skip
      if ((← get).handles.lookup handle).isSome then failure
      else
        modify fun r => { r with handles := (handle, start) :: r.handles }
        directives fuel versioned
    | _ => return ()

/-- The one document of a text, and nothing behind it. -/
def document (fuel : Nat) : Read Node := do
  let directed ← match ← peek? with
    | some (.version _ _) | some (.tagDirective _ _) => pure true
    | _ => pure false
  directives fuel false
  let defaults := [("!", "!"), ("!!", "tag:yaml.org,2002:")]
  modify fun r => { r with handles := r.handles ++ defaults }
  let started ← accept .documentStart
  if (← peek?).isNone && !started then failure
  else if directed && !started then failure
  else
    let bare ← match ← peek? with
      | none => pure true
      | some (.version _ _) | some (.tagDirective _ _) | some .documentStart
      | some .documentEnd => pure started
      | _ => pure false
    let n ← if bare then pure Node.empty else node fuel true false
    modify fun r => { r with tokens := r.tokens.dropWhile (· == .documentEnd) }
    if (← peek?).isNone then return n else failure

end Read

/-- The one document of a text. -/
def document? (text : String) : Option Document := do
  let ts ← tokens? text
  let (root, r) ← (Read.document (4 * ts.length + 8)).run ⟨ts, [], [], []⟩
  return ⟨root, r.named⟩

end GaleraHealth.Yaml
