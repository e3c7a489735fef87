import GaleraHealth.Form

/-!
# JSON values

The value of a JSON text: fields of an object are kept in written order and are not yet checked
for repetition, and a whole number is told apart from a number written with a fraction or an
exponent. Records of the library are read from such values by `record?` and the typed readers
below, each of which answers `none` for a value of another type.
-/

namespace GaleraHealth

/-- A JSON value. `unreadable` stands for a string or a number whose text is well formed but has
no value, such as a string with half a surrogate pair. -/
inductive Json where
  | null
  | bool (b : Bool)
  | int (n : Int)
  | float (x : Float)
  | string (s : String)
  | array (items : List Json)
  | object (fields : List (String × Json))
  | unreadable
  deriving Inhabited

namespace Json

/-! ### Typed reading -/

def string? : Json → Option String
  | .string s => some s
  | _ => none

/-- The value of a truth value. -/
def bool? : Json → Option Bool
  | .bool b => some b
  | _ => none

/-- A whole number between two bounds, ends included. -/
def intIn? (low high : Int) : Json → Option Int
  | .int n => if low ≤ n ∧ n ≤ high then some n else none
  | _ => none

def natUpTo? (high : Nat) (j : Json) : Option Nat :=
  (j.intIn? 0 high).map Int.toNat

def signed64? (j : Json) : Option Int64 :=
  (j.intIn? (-0x8000000000000000) 0x7FFFFFFFFFFFFFFF).map Int64.ofInt

/-- A number; a whole one is rounded to the nearest float. -/
def float? : Json → Option Float
  | .float x => some x
  | .int n => some (Float.ofInt n)
  | _ => none

/-! ### Records -/

/-- The fields of a record. It is written as an object, in which each of its names stands at most
once and other names are passed over, or as the list of its values in the order of `names`, of
which the first `least` must be there. -/
def record? (names : List String) (least : Nat) : Json → Option (List (String × Json))
  | .object fields =>
    if names.all fun n => (fields.filter fun f => f.1 == n).length ≤ 1 then some fields else none
  | .array items =>
    if least ≤ items.length ∧ items.length ≤ names.length then some (names.zip items) else none
  | _ => none

/-- The fields of a record that is never written as a list. -/
def fields? : Json → Option (List (String × Json))
  | .object fields => some fields
  | _ => none

/-- The name of a choice: a string, or an object with that name as only key and `null` beside
it. -/
def name? : Json → Option String
  | .string s => some s
  | .object [(s, .null)] => some s
  | _ => none

def isNull : Json → Bool
  | .null => true
  | _ => false

def items? : Json → Option (List Json)
  | .array items => some items
  | _ => none

/-- How records are read from JSON values. -/
def form : Form Json where
  string? := string?
  bool? := bool?
  natUpTo? := natUpTo?
  float? := float?
  name? := name?
  isNone? := fun j => some j.isNull
  items? := items?
  record? := record?

@[simp]
theorem form_string? : form.string? = string? := rfl

@[simp]
theorem form_bool? : form.bool? = bool? := rfl

@[simp]
theorem form_natUpTo? : form.natUpTo? = natUpTo? := rfl

@[simp]
theorem form_float? : form.float? = float? := rfl

@[simp]
theorem form_record? : form.record? = record? := rfl

/-! ### Writing helpers -/

/-- `null` for a missing value. -/
def ofOption {α : Type} (f : α → Json) : Option α → Json
  | none => .null
  | some a => f a

def ofNat (n : Nat) : Json := .int n

/-- A float. JSON has no value for one that is not finite, and `null` stands for it. -/
def ofFloat (x : Float) : Json := if x.isFinite then .float x else .null

def ofList {α : Type} (f : α → Json) (xs : List α) : Json := .array (xs.map f)

/-! ### Shape -/

mutual

/-- How deeply arrays and objects are nested. -/
def depth : Json → Nat
  | .array items => depthList items + 1
  | .object fields => depthFields fields + 1
  | _ => 0

def depthList : List Json → Nat
  | [] => 0
  | j :: rest => max (depth j) (depthList rest)

def depthFields : List (String × Json) → Nat
  | [] => 0
  | (_, j) :: rest => max (depth j) (depthFields rest)

end

mutual

/-- Whether every string and number in a value has a value. -/
def isReadable : Json → Bool
  | .unreadable => false
  | .array items => areReadable items
  | .object fields => fieldsReadable fields
  | _ => true

def areReadable : List Json → Bool
  | [] => true
  | j :: rest => isReadable j && areReadable rest

def fieldsReadable : List (String × Json) → Bool
  | [] => true
  | (_, j) :: rest => isReadable j && fieldsReadable rest

end

mutual

/-- A value in which of several fields of one name only the last is kept. -/
def keepLast : Json → Json
  | .array items => .array (keepLastItems items)
  | .object fields => .object (keepLastFields fields)
  | j => j

/-- `keepLast` on every member. -/
def keepLastItems : List Json → List Json
  | [] => []
  | j :: rest => keepLast j :: keepLastItems rest

/-- `keepLast` on every field that no later one replaces. -/
def keepLastFields : List (String × Json) → List (String × Json)
  | [] => []
  | (n, j) :: rest =>
    if rest.any fun f => f.1 == n then keepLastFields rest
    else (n, keepLast j) :: keepLastFields rest

end

end Json

end GaleraHealth
