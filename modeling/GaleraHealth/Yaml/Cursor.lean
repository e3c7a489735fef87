/-!
# A place in a YAML text

The scanner of tokens moves a cursor over the characters of a text and keeps count of lines and
columns, since indentation and the place of a colon decide what a token means.
-/

namespace GaleraHealth.Yaml

/-! ### Classes of characters -/

/-- A character that may stand in a text at all. -/
def isAllowed (c : Char) : Bool :=
  let n := c.toNat
  n == 0x09 || n == 0x0A || n == 0x0D || (0x20 ≤ n && n ≤ 0x7E) || n == 0x85 ||
    (0xA0 ≤ n && n ≤ 0xD7FF) || (0xE000 ≤ n && n ≤ 0xFFFD) || 0x10000 ≤ n

def isBreak (c : Char) : Bool :=
  c == '\n' || c == '\r' || c == '\u0085' || c == '\u2028' || c == '\u2029'

def isBlank (c : Char) : Bool :=
  c == ' ' || c == '\t'

def isNameChar (c : Char) : Bool :=
  ('a' ≤ c && c ≤ 'z') || ('A' ≤ c && c ≤ 'Z') || ('0' ≤ c && c ≤ '9') || c == '_' || c == '-'

/-! ### The cursor -/

/-- What is left of a text, and where it starts. -/
structure Cursor where
  rest : List Char
  index : Nat
  line : Nat
  column : Nat

namespace Cursor

/-- The start of a text. A mark for its encoding is passed over, and takes a column. -/
def start : List Char → Cursor
  | '\ufeff' :: cs => ⟨cs, 1, 0, 1⟩
  | cs => ⟨cs, 0, 0, 0⟩

def ahead (c : Cursor) (n : Nat) : Option Char := c.rest[n]?

def next? (c : Cursor) : Option Char := c.rest.head?

def seesAt (c : Cursor) (n : Nat) (x : Char) : Bool := c.ahead n == some x

def sees (c : Cursor) (x : Char) : Bool := c.next? == some x

def atEnd (c : Cursor) : Bool := c.rest.isEmpty

def seesBreak (c : Cursor) : Bool := c.next?.any isBreak

def seesBlankAt (c : Cursor) (n : Nat) : Bool := (c.ahead n).any isBlank

def seesBlank (c : Cursor) : Bool := c.next?.any isBlank

/-- Whether a line or the text ends here. -/
def atLineEnd (c : Cursor) : Bool := c.atEnd || c.seesBreak

/-- Whether a word ends `n` places ahead: at a blank, a line end, or the end of the text. -/
def seesGapAt (c : Cursor) (n : Nat) : Bool :=
  match c.ahead n with
  | none => true
  | some x => isBlank x || isBreak x

/-- Whether a word ends here. -/
def seesGap (c : Cursor) : Bool := c.seesGapAt 0

def skip (c : Cursor) : Cursor :=
  match c.rest with
  | [] => c
  | _ :: rest => ⟨rest, c.index + 1, c.line, c.column + 1⟩

def skipN : Nat → Cursor → Cursor
  | 0, c => c
  | n + 1, c => skipN n c.skip

/-- Past a line end, and the text that it stands for. A carriage return and a line feed are one. -/
def takeBreak (c : Cursor) : List Char × Cursor :=
  match c.rest with
  | '\r' :: '\n' :: rest => (['\n'], ⟨rest, c.index + 2, c.line + 1, 0⟩)
  | x :: rest =>
    if isBreak x then
      ([if x == '\u2028' || x == '\u2029' then x else '\n'], ⟨rest, c.index + 1, c.line + 1, 0⟩)
    else ([], c)
  | [] => ([], c)

def skipBreak (c : Cursor) : Cursor := c.takeBreak.2

/-- The characters up to the first that does not satisfy `p`, and the cursor there. None of them
may end a line. -/
def span (p : Char → Bool) (c : Cursor) : List Char × Cursor :=
  let taken := c.rest.takeWhile p
  (taken, ⟨c.rest.dropWhile p, c.index + taken.length, c.line, c.column + taken.length⟩)

def skipWhile (p : Char → Bool) (c : Cursor) : Cursor := (c.span p).2

/-- Whether a line starts here with three equal marks and a gap. -/
def atMarks (c : Cursor) (x : Char) : Bool :=
  c.column == 0 && c.sees x && c.seesAt 1 x && c.seesAt 2 x && c.seesGapAt 3

/-- Whether a document starts or ends here. -/
def atDocumentMark (c : Cursor) : Bool := c.atMarks '-' || c.atMarks '.'

/-- A bound on the steps that are left. -/
def fuel (c : Cursor) : Nat := c.rest.length + 1

end Cursor

end GaleraHealth.Yaml
