import GaleraHealth.Json.Basic
import GaleraHealth.Decimal.Shortest

/-!
# Writing JSON

A value is written on one line, or spread over lines with two spaces of indentation per level.
Floats are written as the shortest decimal that reads back, always with a point or an exponent, so
that they stay floats.
-/

namespace GaleraHealth.Json

/-- Floats are positional from `10^-5` up to `10^16` and keep a zero after the point. -/
def floatLayout : Decimal.Layout := ⟨some (-5, 15), true⟩

/-- The text of a float; JSON has none for an infinite one. -/
def floatText (x : Float) : String :=
  if x.isFinite then floatLayout.floatText x else "null"

def hexDigit (n : Nat) : Char :=
  (Nat.toDigits 16 n).headD '0'

def escapeChar (c : Char) : String :=
  match c with
  | '"' => "\\\""
  | '\\' => "\\\\"
  | '\n' => "\\n"
  | '\r' => "\\r"
  | '\t' => "\\t"
  | '\x08' => "\\b"
  | '\x0c' => "\\f"
  | c =>
    if c.toNat < 0x20 then
      "\\u00" ++ String.ofList [hexDigit (c.toNat / 16), hexDigit (c.toNat % 16)]
    else String.singleton c

def quoted (s : String) : String :=
  "\"" ++ String.join (s.toList.map escapeChar) ++ "\""

mutual

/-- A value on one line. -/
def compact : Json → String
  | .null => "null"
  | .bool b => if b then "true" else "false"
  | .int n => Decimal.intText n
  | .float x => floatText x
  | .string s => quoted s
  | .array items => "[" ++ ",".intercalate (compactItems items) ++ "]"
  | .object fields => "\x7b" ++ ",".intercalate (compactFields fields) ++ "\x7d"
  | .unreadable => "null"

def compactItems : List Json → List String
  | [] => []
  | j :: rest => compact j :: compactItems rest

def compactFields : List (String × Json) → List String
  | [] => []
  | (n, j) :: rest => (quoted n ++ ":" ++ compact j) :: compactFields rest

end

/-- Lines between two brackets, indented by `level + 1` steps, the closing one by `level`. -/
def block (level : Nat) (opening closing : String) (lines : List String) : String :=
  let indent (n : Nat) : String := String.ofList (List.replicate (2 * n) ' ')
  if lines.isEmpty then opening ++ closing
  else
    opening ++ "\n" ++ ",\n".intercalate (lines.map (indent (level + 1) ++ ·)) ++ "\n" ++
      indent level ++ closing

mutual

/-- A value spread over lines, at a level of indentation. -/
def pretty (level : Nat) : Json → String
  | .array items => block level "[" "]" (prettyItems (level + 1) items)
  | .object fields => block level "\x7b" "\x7d" (prettyFields (level + 1) fields)
  | j => compact j

/-- The members of an array, spread over lines. -/
def prettyItems (level : Nat) : List Json → List String
  | [] => []
  | j :: rest => pretty level j :: prettyItems level rest

/-- The fields of an object, spread over lines. -/
def prettyFields (level : Nat) : List (String × Json) → List String
  | [] => []
  | (n, j) :: rest => (quoted n ++ ": " ++ pretty level j) :: prettyFields level rest

end

end GaleraHealth.Json
