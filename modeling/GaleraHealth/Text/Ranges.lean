/-!
# Sets of code points

A set of code points is kept as the increasing list of the places where membership changes: the
first code point of a run, the first one after it, and so on.
-/

namespace GaleraHealth.Text

/-- Whether a code point lies in a set, given whether the ones before the first change do. -/
def insideAfter (inside : Bool) : List Nat → Nat → Bool
  | [], _ => inside
  | b :: rest, n => if n < b then inside else insideAfter (!inside) rest n

/-- Whether a code point lies in the set with the given changes. -/
def insideRanges (changes : List Nat) (n : Nat) : Bool :=
  insideAfter false changes n

end GaleraHealth.Text
