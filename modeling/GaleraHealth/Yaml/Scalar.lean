import GaleraHealth.Decimal.Reading
import GaleraHealth.Yaml.Cursor

/-!
# Scalars in a YAML text

A scalar is written plain, between quotes, or as a block of lines. The functions of this file take
the cursor at the first character of a scalar and give its text and the cursor behind it. Lines are
folded in the same way everywhere but in literal blocks: one line end becomes a space, further ones
stay.
-/

namespace GaleraHealth.Yaml

/-- Line ends between two parts of a scalar: the first one, and those after it. -/
structure Breaks where
  first : List Char
  more : List Char

/-- What line ends stand for between two parts of a scalar. -/
def Breaks.fold (b : Breaks) : List Char :=
  if b.first.head? == some '\n' then
    if b.more.isEmpty then [' '] else b.more
  else b.first ++ b.more

/-- Blanks and line ends between two parts of a scalar. -/
inductive Gap where
  /-- Blanks inside of a line. -/
  | blanks (cs : List Char)
  /-- Line ends, and the blanks around them. -/
  | breaks (b : Breaks)

def Gap.text : Gap → List Char
  | .blanks cs => cs
  | .breaks b => b.fold

/-- Takes blanks and line ends. A tab after a line end and left of column `least` is refused. -/
def takeGap (least : Nat) : Nat → Gap → Cursor → Option (Gap × Cursor)
  | 0, g, c => some (g, c)
  | fuel + 1, g, c =>
    match c.next? with
    | none => some (g, c)
    | some x =>
      if isBlank x then
        match g with
        | .blanks cs => takeGap least fuel (.blanks (cs ++ [x])) c.skip
        | .breaks b =>
          if c.column < least && x == '\t' then none else takeGap least fuel (.breaks b) c.skip
      else if isBreak x then
        let (text, c) := c.takeBreak
        match g with
        | .blanks _ => takeGap least fuel (.breaks ⟨text, []⟩) c
        | .breaks b => takeGap least fuel (.breaks ⟨b.first, b.more ++ text⟩) c
      else some (g, c)

/-! ### Quoted scalars -/

/-- The character that a letter stands for after a backslash. -/
def escaped? (x : Char) : Option Char :=
  match x with
  | '0' => some '\x00'
  | 'a' => some '\x07'
  | 'b' => some '\x08'
  | 't' | '\t' => some '\t'
  | 'n' => some '\n'
  | 'v' => some '\x0b'
  | 'f' => some '\x0c'
  | 'r' => some '\r'
  | 'e' => some '\x1b'
  | ' ' => some ' '
  | '"' => some '"'
  | '/' => some '/'
  | '\\' => some '\\'
  | 'N' => some '\u0085'
  | '_' => some '\u00a0'
  | 'L' => some '\u2028'
  | 'P' => some '\u2029'
  | _ => none

/-- The number of digits that follow a letter after a backslash. -/
def codeLength? (x : Char) : Option Nat :=
  match x with
  | 'x' => some 2
  | 'u' => some 4
  | 'U' => some 8
  | _ => none

/-- The character with a hexadecimal number of exactly so many digits. -/
def codeChar? (digits : Nat) (cs : List Char) : Option Char :=
  let ds := cs.take digits
  if ds.length = digits then
    (Decimal.naturalInBase? 16 ds).bind fun n =>
      if n < 0xD800 ∨ (0xDFFF < n ∧ n ≤ 0x10FFFF) then some (Char.ofNat n) else none
  else none

/-- Where a part of a quoted scalar ends. -/
inductive PartEnd where
  /-- At the closing quote or at a gap. -/
  | here
  /-- At an escaped line end, which stands for nothing. -/
  | escapedBreak

/-- A part of a quoted scalar without blanks and line ends. -/
def quotedPart (double : Bool) : Nat → Cursor → Option (List Char × PartEnd × Cursor)
  | 0, _ => none
  | fuel + 1, c =>
    match c.rest with
    | [] => some ([], .here, c)
    | x :: rest =>
      if isBlank x || isBreak x then some ([], .here, c)
      else if !double && x == '\'' then
        if rest.head? == some '\'' then do
          let (cs, e, c) ← quotedPart double fuel (c.skipN 2)
          return ('\'' :: cs, e, c)
        else some ([], .here, c)
      else if double && x == '"' then some ([], .here, c)
      else if double && x == '\\' then
        match rest with
        | [] => none
        | y :: digits =>
          if isBreak y then some ([], .escapedBreak, c.skip.skipBreak)
          else
            match codeLength? y with
            | some n => do
              let z ← codeChar? n digits
              let (cs, e, c) ← quotedPart double fuel (c.skipN (2 + n))
              return (z :: cs, e, c)
            | none => do
              let z ← escaped? y
              let (cs, e, c) ← quotedPart double fuel (c.skipN 2)
              return (z :: cs, e, c)
      else do
        let (cs, e, c) ← quotedPart double fuel c.skip
        return (x :: cs, e, c)

/-- The rest of a quoted scalar, up to and past its closing quote. -/
def quotedRest (double : Bool) : Nat → Cursor → Option (List Char × Cursor)
  | 0, _ => none
  | fuel + 1, c =>
    if c.atDocumentMark || c.atEnd then none
    else do
      let (part, e, c) ← quotedPart double c.fuel c
      if c.sees (if double then '"' else '\'') then
        match e with
        | .here => return (part, c.skip)
        | .escapedBreak => return (part, c.skip)
      else
        let gap : Gap := match e with
          | .here => .blanks []
          | .escapedBreak => .breaks ⟨[], []⟩
        let (gap, c) ← takeGap 0 c.fuel gap c
        let (more, c) ← quotedRest double fuel c
        return (part ++ gap.text ++ more, c)

def quotedScalar (double : Bool) (c : Cursor) : Option (List Char × Cursor) :=
  quotedRest double c.fuel c.skip

/-! ### Plain scalars -/

/-- Whether a character parts the members of a flow collection. -/
def isFlowMark (x : Char) : Bool :=
  x == ',' || x == '[' || x == ']' || x == '\x7b' || x == '\x7d'

/-- A part of a plain scalar without blanks and line ends. A colon ends it before a gap; inside of
flow collections their marks do too, and a colon before one of them is refused. -/
def plainPart (inFlow : Bool) : Nat → Cursor → Option (List Char × Cursor)
  | 0, _ => none
  | fuel + 1, c =>
    match c.rest with
    | [] => some ([], c)
    | x :: rest =>
      if isBlank x || isBreak x then some ([], c)
      else if inFlow && x == ':' && rest.head?.any fun y => isFlowMark y || y == '?' then none
      else if (x == ':' && c.seesGapAt 1) || (inFlow && isFlowMark x) then some ([], c)
      else do
        let (cs, c) ← plainPart inFlow fuel c.skip
        return (x :: cs, c)

/-- The rest of a plain scalar after the text `gap` that joins it to what came before. Gives the
text, the cursor, and whether it stopped after a line end. -/
def plainRest (inFlow : Bool) (least : Nat) : Nat → Gap → Cursor →
    Option (List Char × Bool × Cursor)
  | 0, _, _ => none
  | fuel + 1, gap, c =>
    let afterBreak := match gap with
      | .blanks _ => false
      | .breaks _ => true
    if c.atDocumentMark || c.sees '#' then some ([], afterBreak, c)
    else do
      let (part, c) ← plainPart inFlow c.fuel c
      let text := if part.isEmpty then [] else gap.text ++ part
      let afterBreak := part.isEmpty && afterBreak
      if c.seesBlank || c.seesBreak then
        let before : Gap := if part.isEmpty then gap else .blanks []
        let (next, c) ← takeGap least c.fuel before c
        let stopped := match next with
          | .blanks _ => false
          | .breaks _ => true
        if !inFlow && c.column < least then return (text, stopped, c)
        else
          let (more, stopped, c) ← plainRest inFlow least fuel next c
          return (text ++ more, stopped, c)
      else return (text, afterBreak, c)

/-- A plain scalar; its lines after the first are indented by at least `least`. -/
def plainScalar (inFlow : Bool) (least : Nat) (c : Cursor) : Option (List Char × Bool × Cursor) :=
  plainRest inFlow least c.fuel (.blanks []) c

/-! ### Block scalars -/

/-- What becomes of the line ends at the end of a block. -/
inductive Chomp where
  | strip
  | clip
  | keep
  deriving DecidableEq

/-- The marks behind the first character of a block scalar, in either order. -/
def blockHeader (c : Cursor) : Option (Chomp × Option Nat × Cursor) :=
  let chomp? (c : Cursor) : Option Chomp :=
    if c.sees '+' then some .keep else if c.sees '-' then some .strip else none
  let digit? (c : Cursor) : Option Nat :=
    (c.next?.filter Char.isDigit).map fun x => x.toNat - 48
  match chomp? c with
  | some chomp =>
    let c := c.skip
    match digit? c with
    | some 0 => none
    | some n => some (chomp, some n, c.skip)
    | none => some (chomp, none, c)
  | none =>
    match digit? c with
    | some 0 => none
    | some n =>
      let c := c.skip
      match chomp? c with
      | some chomp => some (chomp, some n, c.skip)
      | none => some (.clip, some n, c)
    | none => some (.clip, none, c)

/-- Takes the empty lines in front of a line of a block, and its indentation. An indentation that
is not yet known is that of the widest of them. Gives the line ends and the widest column. -/
def blockBreaks (indent : Option Nat) : Nat → Nat → Cursor → Option (List Char × Nat × Cursor)
  | 0, _, _ => none
  | fuel + 1, widest, c =>
    let room := match indent with
      | none => c.rest.length
      | some n => n - c.column
    let c := Cursor.skipN ((c.rest.take room).takeWhile (· == ' ')).length c
    let widest := max widest c.column
    if c.sees '\t' && indent.all (c.column < ·) then none
    else if c.seesBreak then do
      let (text, c) := c.takeBreak
      let (more, widest, c) ← blockBreaks indent fuel widest c
      return (text ++ more, widest, c)
    else some ([], widest, c)

/-- The lines of a block. `gap` holds the line ends since the last line, and `blankBefore` says
whether that line started with a blank. Gives the text and the last line ends. -/
def blockLines (folded : Bool) (indent : Nat) : Nat → Breaks → Bool → Cursor →
    Option (List Char × Breaks × Cursor)
  | 0, _, _, _ => none
  | fuel + 1, gap, blankBefore, c =>
    if c.column == indent && !c.atEnd then do
      let blank := c.seesBlank
      let joint :=
        if folded && gap.first.head? == some '\n' && !blankBefore && !blank then
          (if gap.more.isEmpty then [' '] else []) ++ gap.more
        else gap.first ++ gap.more
      let (line, c) := c.span fun x => !isBreak x
      let (first, c) := c.takeBreak
      let (more, _, c) ← blockBreaks (some indent) c.fuel 0 c
      let (text, gap, c) ← blockLines folded indent fuel ⟨first, more⟩ blank c
      return (joint ++ line ++ text, gap, c)
    else some ([], gap, c)

/-- A block scalar inside of a block that is indented by `outer`, or of none. -/
def blockScalar (folded : Bool) (outer : Option Nat) (c : Cursor) :
    Option (List Char × Cursor) := do
  let (chomp, increment, c) ← blockHeader c.skip
  let c := c.skipWhile isBlank
  let c := if c.sees '#' then c.skipWhile fun x => !isBreak x else c
  if !c.atLineEnd then none
  else
    let c := c.skipBreak
    let given := increment.map fun n => outer.getD 0 + n
    let (more, widest, c) ← blockBreaks given c.fuel 0 c
    let indent := given.getD (max (max widest (outer.elim 0 (· + 1))) 1)
    let (text, gap, c) ← blockLines folded indent c.fuel ⟨[], more⟩ false c
    let tail := match chomp with
      | .strip => []
      | .clip => gap.first
      | .keep => gap.first ++ gap.more
    return (text ++ tail, c)

end GaleraHealth.Yaml
