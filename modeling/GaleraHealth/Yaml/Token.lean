import GaleraHealth.Yaml.Scalar

/-!
# The tokens of a YAML text

A token is a mark, a property or a scalar. Blocks have no marks of their own in the text: they
start where a line is indented further than the block around it, and end where one is indented less,
and the tokens for their starts and ends are made up from the columns. A key without a mark of its
own is known by the colon behind it, so the token for a key is put in front of tokens that are there
already; such a key has to stand on one line and within 1024 characters of its colon.
-/

namespace GaleraHealth.Yaml

/-- How a scalar is written, as far as its meaning hangs on it. -/
inductive Style where
  | plain
  /-- As a block whose lines are kept. -/
  | literal
  /-- Between quotes, or as a block whose lines are folded. -/
  | quoted
  deriving DecidableEq, Repr

/-- A token. -/
inductive Token where
  | version (major minor : Nat)
  | tagDirective (handle start : String)
  | documentStart
  | documentEnd
  | blockSequence
  | blockMapping
  | blockEnd
  | flowSequence
  | flowSequenceEnd
  | flowMapping
  | flowMappingEnd
  | entry
  | comma
  | key
  | value
  | alias (name : String)
  | anchor (name : String)
  | tag (handle rest : String)
  | scalar (style : Style) (text : String)
  deriving DecidableEq, Repr

/-! ### Properties and directives -/

/-- A name behind a `*` or a `&`. -/
def anchorName (c : Cursor) : Option (String × Cursor) :=
  let (name, c) := c.skip.span isNameChar
  let ends := c.seesGap || c.next?.any fun x => "?:,]\x7d%@`".toList.contains x
  if name.isEmpty || !ends then none else some (String.ofList name, c)

/-- A handle of tags: exclamation marks around a name, or a single one. In a directive a name has to
be closed. -/
def tagHandle (inDirective : Bool) (c : Cursor) : Option (List Char × Cursor) :=
  if !c.sees '!' then none
  else
    let (name, c) := c.skip.span isNameChar
    if c.sees '!' then some ('!' :: name ++ ['!'], c.skip)
    else if inDirective && !name.isEmpty then none
    else some ('!' :: name, c)

/-- A character of a tag. Between angle brackets some more are allowed. -/
def isTagChar (bracketed : Bool) (x : Char) : Bool :=
  isNameChar x || ";/?:@&=+$.!~*'()".toList.contains x || (bracketed && ",[]".toList.contains x)

/-- A byte written as a percent sign and two hexadecimal digits. -/
def percentByte? : List Char → Option (Nat × List Char)
  | '%' :: a :: b :: rest => (Decimal.naturalInBase? 16 [a, b]).map fun n => (n, rest)
  | _ => none

/-- The bytes behind the first one of a character. -/
def percentTail? : Nat → Nat → List Char → Option Nat
  | 0, n, _ => some n
  | k + 1, n, cs => do
    let (b, rest) ← percentByte? cs
    if b / 64 = 2 then percentTail? k (n * 64 + b % 64) rest else none

/-- A character written as percent bytes, and how many of them there are. -/
def percentChar? (cs : List Char) : Option (Char × Nat) := do
  let (b, rest) ← percentByte? cs
  if b < 0x80 then return (Char.ofNat b, 1)
  else if b / 32 = 6 then return (Char.ofNat (← percentTail? 1 (b % 32) rest), 2)
  else if b / 16 = 14 then return (Char.ofNat (← percentTail? 2 (b % 16) rest), 3)
  else if b / 8 = 30 then return (Char.ofNat (← percentTail? 3 (b % 8) rest), 4)
  else none

def tagText (bracketed : Bool) : Nat → Cursor → Option (List Char × Cursor)
  | 0, c => some ([], c)
  | fuel + 1, c =>
    match c.next? with
    | none => some ([], c)
    | some x =>
      if x == '%' then do
        let (y, n) ← percentChar? c.rest
        let (cs, c) ← tagText bracketed fuel (c.skipN (3 * n))
        return (y :: cs, c)
      else if isTagChar bracketed x then do
        let (cs, c) ← tagText bracketed fuel c.skip
        return (x :: cs, c)
      else some ([], c)

/-- The handle of a tag, what follows it, and the cursor behind. A tag between angle brackets has
no handle, and a single exclamation mark is all of its tag. -/
def tagParts (c : Cursor) : Option (List Char × List Char × Cursor) :=
  if c.seesAt 1 '<' then do
    let (text, c) ← tagText true c.fuel (c.skipN 2)
    if text.isEmpty || !c.sees '>' then none else some ([], text, c.skip)
  else do
    let (handle, after) ← tagHandle false c
    let (text, c) ← tagText false after.fuel after
    if 2 ≤ handle.length && handle.getLast? == some '!' then
      if text.isEmpty then none else some (handle, text, c)
    else
      let text := handle.drop 1 ++ text
      if text.isEmpty then some ([], ['!'], c) else some (['!'], text, c)

def tagToken (inFlow : Bool) (c : Cursor) : Option (Token × Cursor) := do
  let (handle, rest, c) ← tagParts c
  if c.seesGap || (inFlow && c.sees ',') then
    some (.tag (String.ofList handle) (String.ofList rest), c)
  else none

/-- A number of at most nine digits. -/
def versionNumber (c : Cursor) : Option (Nat × Cursor) :=
  let (ds, c) := c.span Char.isDigit
  if ds.length ≤ 9 then (Decimal.natural? ds).map fun n => (n, c) else none

/-- The value of a directive that names a version. -/
def versionValue (c : Cursor) : Option (Token × Cursor) := do
  let (major, c) ← versionNumber c
  if c.sees '.' then
    let (minor, c) ← versionNumber c.skip
    some (.version major minor, c)
  else none

/-- The value of a directive that names a handle of tags. -/
def tagDirectiveValue (c : Cursor) : Option (Token × Cursor) := do
  let (handle, c) ← tagHandle true c
  if c.seesBlank then
    let (start, c) ← tagText true c.fuel (c.skipWhile isBlank)
    if start.isEmpty || !c.seesGap then none
    else some (.tagDirective (String.ofList handle) (String.ofList start), c)
  else none

/-- A directive, from its percent sign to the end of its line. -/
def directive (c : Cursor) : Option (Token × Cursor) := do
  let (name, c) := c.skip.span isNameChar
  if !c.seesGap then none
  else
    let c := c.skipWhile isBlank
    let (token, c) ←
      if name = "YAML".toList then versionValue c
      else if name = "TAG".toList then tagDirectiveValue c
      else none
    let c := c.skipWhile isBlank
    let c := if c.sees '#' then c.skipWhile fun x => !isBreak x else c
    if c.atLineEnd then some (token, c.skipBreak) else none

/-! ### The scanner -/

/-- A place where a key without a mark may have started. -/
structure Candidate where
  /-- How many tokens there were before it. -/
  place : Nat
  /-- Whether it has to be a key, because a block needs one here. -/
  required : Bool
  index : Nat
  line : Nat
  column : Nat

/-- The tokens so far, and what decides about the next ones. -/
structure Scanner where
  cursor : Cursor
  tokens : Array Token
  /-- The columns of the blocks around the cursor, the innermost first. -/
  blocks : List Nat
  /-- A candidate for a key in the text outside of all flow collections, and one in each of them,
  the innermost first. -/
  candidates : List (Option Candidate)
  /-- Whether a key without a mark may start here. -/
  keyAllowed : Bool

namespace Scanner

/-- Before the first token. -/
def start (cs : List Char) : Scanner := ⟨.start cs, #[], [], [none], true⟩

/-- Whether the cursor is inside of a flow collection. -/
def inFlow (s : Scanner) : Bool := 1 < s.candidates.length

/-- The column that a block has to exceed to start here. -/
def outer (s : Scanner) : Option Nat := s.blocks.head?

def push (s : Scanner) (t : Token) : Scanner := { s with tokens := s.tokens.push t }

/-- Adds a token of so many characters. -/
def mark (s : Scanner) (t : Token) (n : Nat) : Scanner :=
  { s.push t with cursor := s.cursor.skipN n }

/-- Past blanks, comments and line ends. Tabs are no indentation: they are passed over only where no
key may start. -/
def toNextToken : Nat → Scanner → Scanner
  | 0, s => s
  | fuel + 1, s =>
    let tabs := s.inFlow || !s.keyAllowed
    let c := s.cursor.skipWhile fun x => x == ' ' || (tabs && x == '\t')
    let c := if c.sees '#' then c.skipWhile fun x => !isBreak x else c
    if c.seesBreak then
      toNextToken fuel { s with cursor := c.skipBreak, keyAllowed := s.keyAllowed || !s.inFlow }
    else { s with cursor := c }

/-- Gives up a candidate. One that has to be a key must not be given up. -/
def giveUp : Option Candidate → Option (Option Candidate)
  | some k => if k.required then none else some none
  | none => some none

/-- Gives up the candidates that are too far back for a colon at the cursor. -/
def dropStale (s : Scanner) : Option Scanner := do
  let candidates ← s.candidates.mapM fun k =>
    if k.any fun k => k.line < s.cursor.line || k.index + 1024 < s.cursor.index then giveUp k
    else some k
  return { s with candidates }

def dropCandidate (s : Scanner) : Option Scanner :=
  match s.candidates with
  | [] => some s
  | k :: ks => do
    let k ← giveUp k
    return { s with candidates := k :: ks }

/-- Notes that a key may start at the cursor. -/
def noteCandidate (s : Scanner) : Option Scanner :=
  if !s.keyAllowed then some s
  else do
    let s ← s.dropCandidate
    let required := !s.inFlow && s.outer == some s.cursor.column
    let k : Candidate :=
      ⟨s.tokens.size, required, s.cursor.index, s.cursor.line, s.cursor.column⟩
    return { s with candidates := some k :: s.candidates.drop 1 }

/-- Starts a block at a column that lies further in than the block around it; its token goes in
front of the tokens from `place` on. -/
def openBlock (s : Scanner) (t : Token) (column place : Nat) : Scanner :=
  if s.inFlow || s.outer.any (column ≤ ·) then s
  else { s with blocks := column :: s.blocks, tokens := s.tokens.insertIdxIfInBounds place t }

/-- Ends the blocks that are further in than a column. -/
def closeBlocks (column : Option Nat) : List Nat → Array Token → List Nat × Array Token
  | [], ts => ([], ts)
  | b :: bs, ts =>
    if column.all (· < b) then closeBlocks column bs (ts.push .blockEnd) else (b :: bs, ts)

/-- Ends the blocks that are further in than a column, or all of them. -/
def unwind (s : Scanner) (column : Option Nat) : Scanner :=
  if s.inFlow then s
  else
    let (blocks, tokens) := closeBlocks column s.blocks s.tokens
    { s with blocks, tokens }

/-- A mark or directive that ends all blocks. -/
def betweenDocuments (s : Scanner) : Option Scanner := do
  let s ← (s.unwind none).dropCandidate
  return { s with keyAllowed := false }

def openFlow (s : Scanner) (t : Token) : Option Scanner := do
  let s ← s.noteCandidate
  return { s.mark t 1 with candidates := none :: s.candidates, keyAllowed := true }

def closeFlow (s : Scanner) (t : Token) : Option Scanner := do
  let s ← s.dropCandidate
  let candidates := if s.inFlow then s.candidates.drop 1 else s.candidates
  return { s.mark t 1 with candidates, keyAllowed := false }

def blockEntry (s : Scanner) : Option Scanner :=
  if !s.inFlow && !s.keyAllowed then none
  else do
    let s ← (s.openBlock .blockSequence s.cursor.column s.tokens.size).dropCandidate
    return { s.mark .entry 1 with keyAllowed := true }

/-- The mark of a key. -/
def markedKey (s : Scanner) : Option Scanner :=
  if !s.inFlow && !s.keyAllowed then none
  else do
    let s ← (s.openBlock .blockMapping s.cursor.column s.tokens.size).dropCandidate
    return { s.mark .key 1 with keyAllowed := !s.inFlow }

/-- A colon: the candidate becomes a key, or a key with a mark stands before it. -/
def colon (s : Scanner) : Option Scanner :=
  match s.candidates with
  | some k :: ks =>
    let tokens := s.tokens.insertIdxIfInBounds k.place .key
    let s := { s with tokens, candidates := none :: ks }
    let s := s.openBlock .blockMapping k.column k.place
    some { s.mark .value 1 with keyAllowed := false }
  | _ =>
    if !s.inFlow && !s.keyAllowed then none
    else
      let s := s.openBlock .blockMapping s.cursor.column s.tokens.size
      some { s.mark .value 1 with keyAllowed := !s.inFlow }

/-- A token that was read from the text, with the cursor behind it. -/
def read (s : Scanner) (keyAllowed : Bool) (t : Token) (c : Cursor) : Scanner :=
  { s.push t with cursor := c, keyAllowed }

/-- Whether a plain scalar may start at the cursor. -/
def atPlain (s : Scanner) : Bool :=
  let c := s.cursor
  match c.next? with
  | none => false
  | some x =>
    !(isBlank x || isBreak x || "-?:,[]\x7b\x7d#&*!|>'\"%@`".toList.contains x) ||
      (x == '-' && !c.seesBlankAt 1) || (!s.inFlow && (x == '?' || x == ':') && !c.seesGapAt 1)

/-- The next token. The cursor is not at the end of the text. -/
def scanToken (s : Scanner) : Option Scanner :=
  let c := s.cursor
  if c.column == 0 && c.sees '%' then do
    let s ← s.betweenDocuments
    let (t, c) ← directive c
    return s.read false t c
  else if c.atMarks '-' then s.betweenDocuments.map (·.mark .documentStart 3)
  else if c.atMarks '.' then s.betweenDocuments.map (·.mark .documentEnd 3)
  else if c.sees '[' then s.openFlow .flowSequence
  else if c.sees '\x7b' then s.openFlow .flowMapping
  else if c.sees ']' then s.closeFlow .flowSequenceEnd
  else if c.sees '\x7d' then s.closeFlow .flowMappingEnd
  else if c.sees ',' then do
    let s ← s.dropCandidate
    return { s.mark .comma 1 with keyAllowed := true }
  else if c.sees '-' && c.seesGapAt 1 then s.blockEntry
  else if c.sees '?' && (s.inFlow || c.seesGapAt 1) then s.markedKey
  else if c.sees ':' && (s.inFlow || c.seesGapAt 1) then s.colon
  else if c.sees '*' then do
    let s ← s.noteCandidate
    let (name, c) ← anchorName c
    return s.read false (.alias name) c
  else if c.sees '&' then do
    let s ← s.noteCandidate
    let (name, c) ← anchorName c
    return s.read false (.anchor name) c
  else if c.sees '!' then do
    let s ← s.noteCandidate
    let (t, c) ← tagToken s.inFlow c
    return s.read false t c
  else if (c.sees '|' || c.sees '>') && !s.inFlow then do
    let s ← s.dropCandidate
    let folded := c.sees '>'
    let (text, c) ← blockScalar folded s.outer c
    return s.read true (.scalar (if folded then .quoted else .literal) (String.ofList text)) c
  else if c.sees '\'' || c.sees '"' then do
    let s ← s.noteCandidate
    let (text, c) ← quotedScalar (c.sees '"') c
    return s.read false (.scalar .quoted (String.ofList text)) c
  else if s.atPlain then do
    let s ← s.noteCandidate
    let (text, stopped, c) ← plainScalar s.inFlow (s.outer.elim 0 (· + 1)) c
    return s.read stopped (.scalar .plain (String.ofList text)) c
  else none

/-- All tokens from here on. Every token but the last takes a character. -/
def run : Nat → Scanner → Option (Array Token)
  | 0, _ => none
  | fuel + 1, s => do
    let s := toNextToken s.cursor.fuel s
    let s ← s.dropStale
    let s := s.unwind (some s.cursor.column)
    if s.cursor.atEnd then
      let s ← (s.unwind none).dropCandidate
      return s.tokens
    else
      let s ← s.scanToken
      run fuel s

end Scanner

def tokens? (text : String) : Option (List Token) :=
  let cs := text.toList
  if cs.all isAllowed then
    (Scanner.run (cs.length + 2) (.start cs)).map Array.toList
  else none

end GaleraHealth.Yaml
