import GaleraHealth.Decimal.Reading

/-!
# Labels in ASCII

A label of a domain name with characters outside ASCII is written as its ASCII characters, a
hyphen, and the remaining characters as differences of code points in a variable-length base 36
(RFC 3492). The thresholds between digits adapt to the differences seen so far.
-/

namespace GaleraHealth.Net.Punycode

/-- The digit of a value below 36. -/
def digit (n : Nat) : Char := if n < 26 then Char.ofNat (97 + n) else Char.ofNat (22 + n)

/-- The value of a digit, of either case. -/
def value? (c : Char) : Option Nat :=
  if 'a' ≤ c ∧ c ≤ 'z' then some (c.toNat - 97)
  else if 'A' ≤ c ∧ c ≤ 'Z' then some (c.toNat - 65)
  else if '0' ≤ c ∧ c ≤ '9' then some (c.toNat - 22)
  else none

/-- The threshold of the digit at position `k`, which counts in steps of 36 from 36. -/
def threshold (k bias : Nat) : Nat := min 26 (max 1 (k - bias))

theorem threshold_pos (k bias : Nat) : 1 ≤ threshold k bias := by
  unfold threshold; omega

theorem threshold_lt (k bias : Nat) : threshold k bias < 36 := by
  unfold threshold; omega

/-- Divides a difference down to the range of the bias, counting the divisions in steps of 36. -/
def settle (delta k : Nat) : Nat :=
  if h : 455 < delta then settle (delta / 35) (k + 36) else k + 36 * delta / (delta + 38)
termination_by delta
decreasing_by omega

/-- The bias after a difference. -/
def adapt (delta count : Nat) (first : Bool) : Nat :=
  let d := if first then delta / 700 else delta / 2
  settle (d + d / count) 0

def digits (bias k n : Nat) : List Char :=
  let t := threshold k bias
  if h : n < t then [digit n]
  else digit (t + (n - t) % (36 - t)) :: digits bias (k + 36) ((n - t) / (36 - t))
termination_by n
decreasing_by
  have h1 := threshold_pos k bias
  have h2 := threshold_lt k bias
  have := Nat.div_le_self (n - threshold k bias) (36 - threshold k bias)
  omega

/-- Where an encoder stands. -/
structure Encoder where
  written : List Char
  delta : Nat
  bias : Nat
  /-- How many characters have been handled. -/
  handled : Nat

/-- Passes over one character of the label while code point `n` is handled. -/
def Encoder.pass (basic n : Nat) (e : Encoder) (c : Char) : Encoder :=
  if c.toNat < n then { e with delta := e.delta + 1 }
  else if c.toNat = n then
    ⟨e.written ++ digits e.bias 36 e.delta, 0, adapt e.delta (e.handled + 1) (e.handled == basic),
      e.handled + 1⟩
  else e

/-- Handles the code points of a label one by one, in order; `least` is the least that may come. -/
def Encoder.run (label : List Char) (basic : Nat) : Encoder → Nat → List Nat → Encoder
  | e, _, [] => e
  | e, least, n :: rest =>
    let e := { e with delta := e.delta + (n - least) * (e.handled + 1) }
    let e := label.foldl (pass basic n) e
    run label basic { e with delta := e.delta + 1 } (n + 1) rest

/-- The code points outside ASCII in order, each once. -/
def foreign (label : List Char) : List Nat :=
  ((label.map Char.toNat).filter (128 ≤ ·)).mergeSort.eraseDups

/-- A label in ASCII, without the mark in front. -/
def encode (label : List Char) : List Char :=
  let basic := label.filter (·.toNat < 128)
  let front := if basic.isEmpty then [] else basic ++ ['-']
  (Encoder.run label basic.length ⟨front, 0, 72, basic.length⟩ 128 (foreign label)).written

/-- Reads the digits of a difference: the sum so far, the weight of the next digit, its position,
and what is left of the text. -/
def difference? (bias : Nat) : Nat → Nat → Nat → List Char → Option (Nat × List Char)
  | _, _, _, [] => none
  | sum, weight, k, c :: rest => do
    let v ← value? c
    let sum := sum + v * weight
    let t := threshold k bias
    if 0xFFFFFFFF < sum then none
    else if v < t then some (sum, rest)
    else difference? bias sum (weight * (36 - t)) (k + 36) rest

/-- Inserts the characters of a text of differences. Every difference has at least one digit, so
the length of the text bounds the steps. -/
def insertAll? : Nat → List Char → Nat → Nat → Nat → List Char → Option (List Char)
  | 0, label, _, _, _, _ => some label
  | _ + 1, label, _, _, _, [] => some label
  | fuel + 1, label, n, i, bias, rest => do
    let (delta, rest) ← difference? bias 0 1 36 rest
    let count := label.length + 1
    let place := i + delta
    let n := n + place / count
    if h : n.isValidChar then
      let at_ := place % count
      let bias := adapt delta count (label.all (·.toNat < 128))
      insertAll? fuel (label.take at_ ++ Char.ofNatAux n h :: label.drop at_) n (at_ + 1) bias rest
    else none

/-- The label that a text stands for. -/
def decode? (text : List Char) : Option (List Char) :=
  let (tail, front) := text.reverse.span (· != '-')
  let basic := front.drop 1 |>.reverse
  if basic.all (·.toNat < 128) then
    insertAll? (text.length + 1) basic 128 0 72 tail.reverse
  else none

end GaleraHealth.Net.Punycode
