import GaleraHealth.Json.Basic
import GaleraHealth.Decimal.Reading

/-!
# Reading JSON

A JSON text is read from bytes. The grammar is checked everywhere; whether a string or a number has
a value is recorded in the result (`Json.unreadable`), so that a reader of a record may pass over a
field whose value it does not need. An object with a key that has no value is itself unreadable.

The grammar is a recursion on fuel, and the length of the text is always enough of it: every step
consumes a byte.
-/

namespace GaleraHealth.Json.Reader

def isSpace (b : UInt8) : Bool :=
  b == 0x20 || b == 0x09 || b == 0x0A || b == 0x0D

/-- A text from its first character that is not white space. -/
def skipSpace (bs : List UInt8) : List UInt8 :=
  bs.dropWhile isSpace

/-- The text after a literal, if it starts with it. -/
def literal? : List UInt8 → List UInt8 → Option (List UInt8)
  | [], rest => some rest
  | _ :: _, [] => none
  | a :: as, b :: bs => if a = b then literal? as bs else none

def ascii (s : String) : List UInt8 :=
  s.toUTF8.toList

def isDigit (b : UInt8) : Bool :=
  0x30 ≤ b && b ≤ 0x39

def charOfByte (b : UInt8) : Char :=
  Char.ofNat b.toNat

/-! ### Strings -/

/-- One item between the quotes of a string. -/
inductive Item where
  /-- A byte that stands for itself. -/
  | byte (b : UInt8)
  /-- The number of a `\u` escape. -/
  | code (n : Nat)

/-- The value of four hexadecimal digits. -/
def fourHex? (a b c d : UInt8) : Option Nat :=
  Decimal.naturalInBase? 16 [charOfByte a, charOfByte b, charOfByte c, charOfByte d]

/-- The byte that a letter stands for after a backslash. -/
def escape? (b : UInt8) : Option UInt8 :=
  match charOfByte b with
  | '"' => some 0x22
  | '\\' => some 0x5C
  | '/' => some 0x2F
  | 'b' => some 0x08
  | 'f' => some 0x0C
  | 'n' => some 0x0A
  | 'r' => some 0x0D
  | 't' => some 0x09
  | _ => none

/-- The items of a string after its opening quote, and the text after its closing quote. -/
def units? : List UInt8 → Option (List Item × List UInt8)
  | [] => none
  | 0x22 :: rest => some ([], rest)
  | 0x5C :: 0x75 :: a :: b :: c :: d :: rest => do
    let n ← fourHex? a b c d
    let (us, rest) ← units? rest
    return (.code n :: us, rest)
  | 0x5C :: e :: rest => do
    let b ← escape? e
    let (us, rest) ← units? rest
    return (.byte b :: us, rest)
  | b :: rest =>
    if b < 0x20 then none
    else do
      let (us, rest) ← units? rest
      return (.byte b :: us, rest)

def codeBytes (n : Nat) : List UInt8 :=
  (String.singleton (Char.ofNat n)).toUTF8.toList

/-- The bytes that the items of a string stand for. A code in the first surrogate range has to be
followed by one in the second, and none of the second stands alone. -/
def unitBytes? : List Item → Option (List UInt8)
  | [] => some []
  | .byte b :: rest => (unitBytes? rest).map (b :: ·)
  | .code hi :: .code lo :: rest =>
    if 0xD800 ≤ hi ∧ hi < 0xDC00 then
      if 0xDC00 ≤ lo ∧ lo < 0xE000 then
        (unitBytes? rest).map (codeBytes (0x10000 + (hi - 0xD800) * 0x400 + (lo - 0xDC00)) ++ ·)
      else none
    else if 0xDC00 ≤ hi ∧ hi < 0xE000 then none
    else (unitBytes? (.code lo :: rest)).map (codeBytes hi ++ ·)
  | .code n :: rest =>
    if 0xD800 ≤ n ∧ n < 0xE000 then none
    else (unitBytes? rest).map (codeBytes n ++ ·)

/-- The text of a string, if its bytes are UTF-8. -/
def stringOfUnits? (us : List Item) : Option String :=
  (unitBytes? us).bind fun bs => String.fromUTF8? ⟨bs.toArray⟩

/-! ### Numbers -/

/-- The text of a number: sign, whole part, and fraction and exponent if they are written. -/
structure NumberText where
  negative : Bool
  whole : List Char
  fraction : Option (List Char)
  exponent : Option (Bool × List Char)

/-- A row of digits, and the text after it. -/
def digits (bs : List UInt8) : List Char × List UInt8 :=
  ((bs.takeWhile isDigit).map charOfByte, bs.dropWhile isDigit)

/-- The exponent of a number, if one is written. -/
def exponent? : List UInt8 → Option (Option (Bool × List Char) × List UInt8)
  | b :: rest =>
    if b = 0x65 ∨ b = 0x45 then
      let (negative, rest) := match rest with
        | 0x2D :: r => (true, r)
        | 0x2B :: r => (false, r)
        | r => (false, r)
      let (ds, rest) := digits rest
      if ds.isEmpty then none else some (some (negative, ds), rest)
    else some (none, b :: rest)
  | [] => some (none, [])

/-- The number at the start of a text that follows its sign. Its whole part has no superfluous zero
in front. -/
def unsigned? (negative : Bool) (bs : List UInt8) : Option (NumberText × List UInt8) := do
  let (whole, bs) := digits bs
  if whole.isEmpty then none
  else if whole.length > 1 ∧ whole.head? = some '0' then none
  else
    match bs with
    | 0x2E :: r =>
      let (fraction, r) := digits r
      if fraction.isEmpty then none
      else do
        let (e, r) ← exponent? r
        return (⟨negative, whole, some fraction, e⟩, r)
    | r => do
      let (e, r) ← exponent? r
      return (⟨negative, whole, none, e⟩, r)

/-- The number at the start of a text. -/
def number? : List UInt8 → Option (NumberText × List UInt8)
  | 0x2D :: r => unsigned? true r
  | r => unsigned? false r

/-- The value of a number. A whole number that fits neither 64-bit range becomes a float, and so
does a negative zero; a float has to be finite. -/
def NumberText.value (t : NumberText) : Json :=
  let float : Json :=
    let e := match t.exponent with
      | none => 0
      | some (negative, ds) =>
        let n := Int.ofNat ((Decimal.natural? ds).getD 0)
        if negative then -n else n
    let x := Decimal.floatOfParts t.negative t.whole (t.fraction.getD []) e
    if x.isFinite then .float x else .unreadable
  if t.fraction.isSome || t.exponent.isSome then float
  else
    let n := (Decimal.natural? t.whole).getD 0
    if t.negative then
      if n = 0 ∨ 0x8000000000000000 < n then float else .int (-Int.ofNat n)
    else if n ≤ 0xFFFFFFFFFFFFFFFF then .int (Int.ofNat n)
    else float

/-! ### Values -/

/-- Fields with their keys, unless a key has no value. -/
def fieldsOf? (fs : List (Option String × Json)) : Option (List (String × Json)) :=
  fs.mapM fun f => f.1.map fun k => (k, f.2)

mutual

/-- The value at the start of a text, after white space. -/
def value? : Nat → List UInt8 → Option (Json × List UInt8)
  | 0, _ => none
  | fuel + 1, bs =>
    match skipSpace bs with
    | [] => none
    | 0x7B :: rest =>
      match skipSpace rest with
      | 0x7D :: rest => some (.object [], rest)
      | rest => do
        let (fs, rest) ← fields? fuel rest
        return (((fieldsOf? fs).map Json.object).getD .unreadable, rest)
    | 0x5B :: rest =>
      match skipSpace rest with
      | 0x5D :: rest => some (.array [], rest)
      | rest => do
        let (items, rest) ← items? fuel rest
        return (.array items, rest)
    | 0x22 :: rest => do
      let (us, rest) ← units? rest
      return (((stringOfUnits? us).map Json.string).getD .unreadable, rest)
    | b :: rest =>
      if b = 0x2D ∨ isDigit b then do
        let (t, rest) ← number? (b :: rest)
        return (t.value, rest)
      else
        ((literal? (ascii "null") (b :: rest)).map fun r => (Json.null, r)) <|>
        ((literal? (ascii "true") (b :: rest)).map fun r => (Json.bool true, r)) <|>
        ((literal? (ascii "false") (b :: rest)).map fun r => (Json.bool false, r))

/-- The members of an array up to its closing bracket. -/
def items? : Nat → List UInt8 → Option (List Json × List UInt8)
  | 0, _ => none
  | fuel + 1, bs => do
    let (j, rest) ← value? fuel bs
    match skipSpace rest with
    | 0x2C :: rest => do
      let (items, rest) ← items? fuel rest
      return (j :: items, rest)
    | 0x5D :: rest => some ([j], rest)
    | _ => none

/-- The fields of an object up to its closing brace. -/
def fields? : Nat → List UInt8 → Option (List (Option String × Json) × List UInt8)
  | 0, _ => none
  | fuel + 1, bs =>
    match skipSpace bs with
    | 0x22 :: rest => do
      let (us, rest) ← units? rest
      match skipSpace rest with
      | 0x3A :: rest => do
        let (j, rest) ← value? fuel rest
        let f := (stringOfUnits? us, j)
        match skipSpace rest with
        | 0x2C :: rest => do
          let (fs, rest) ← fields? fuel rest
          return (f :: fs, rest)
        | 0x7D :: rest => some ([f], rest)
        | _ => none
      | _ => none
    | _ => none

end

end Reader

/-- The value of a JSON text: one value with white space around it and nothing else. -/
def ofBytes? (bs : List UInt8) : Option Json := do
  let (j, rest) ← Reader.value? (2 * bs.length + 2) bs
  if (Reader.skipSpace rest).isEmpty then some j else none

/-- The value of a JSON text that is given as a string. -/
def ofText? (s : String) : Option Json :=
  ofBytes? s.toUTF8.toList

/-- The deepest nesting that a value read as a whole may have. -/
def maxDepth : Nat := 127

/-- The value of a JSON text in which every part has a value and nesting is bounded. -/
def wholeOfBytes? (bs : List UInt8) : Option Json :=
  (ofBytes? bs).filter fun j => j.isReadable && decide (j.depth ≤ maxDepth)

end GaleraHealth.Json
