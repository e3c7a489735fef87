import GaleraHealth.Decimal.Binary

/-!
# The shortest decimal that reads back

Among the decimals that round to a given double the one with the fewest digits is chosen, and
among those the nearest. For a number of digits the only candidates are the two neighbours of the
value on that decimal grid, so at most seventeen grids are tried. How the digits are laid out
(with or without an exponent) is a second question, answered by a `Layout`.
-/

namespace GaleraHealth.Decimal

/-- `digits · 10^exponent`. -/
structure Scientific where
  digits : Nat
  exponent : Int
  deriving DecidableEq, Repr

/-- The decimal exponent of the leading digit of `num / den`: the `k` with
`10^k ≤ num / den < 10^(k+1)`. -/
def leadingExponent (num den : Nat) : Int :=
  if den ≤ num then
    Int.ofNat ((Nat.toDigits 10 (num / den)).length - 1)
  else
    -Int.ofNat (Nat.toDigits 10 ((den - 1) / num)).length

/-- The interval of reals that round to `m · 2^q`, in quarters of `2^q`: its two ends and whether
they belong to it. Below a power of two the doubles lie twice as close. -/
def roundingInterval (m : Nat) (q : Int) : Nat × Nat × Bool :=
  (if m = leadingBit ∧ -1074 < q then 4 * m - 1 else 4 * m - 2, 4 * m + 2, m % 2 == 0)

/-- Whether the decimal `s` rounds to `m · 2^q`. -/
def roundsTo (m : Nat) (q : Int) (s : Scientific) : Bool :=
  let i := roundingInterval m q
  let scale := scaled 1 (q - 2)
  let ten : Nat × Nat :=
    if 0 ≤ s.exponent then (Nat.pow 10 s.exponent.toNat, 1) else (1, Nat.pow 10 (-s.exponent).toNat)
  let value := s.digits * ten.1 * scale.2
  let low := i.1 * scale.1 * ten.2
  let high := i.2.1 * scale.1 * ten.2
  if i.2.2 then low ≤ value && value ≤ high else low < value && value < high

/-- The neighbours of `num / den` on the grid of `10^e`: the one below, and whether the one above
is nearer. -/
def neighbours (num den : Nat) (e : Int) : Nat × Bool :=
  let v : Nat × Nat :=
    if 0 ≤ e then (num, den * Nat.pow 10 e.toNat) else (num * Nat.pow 10 (-e).toNat, den)
  (v.1 / v.2, v.2 ≤ 2 * (v.1 % v.2))

/-- The nearer of the two neighbours on a grid that round to the value, if one does. -/
def onGrid (m : Nat) (q e : Int) : Option Scientific :=
  let v := scaled m q
  let n := neighbours v.1 v.2 e
  let near : Scientific := ⟨if n.2 then n.1 + 1 else n.1, e⟩
  let far : Scientific := ⟨if n.2 then n.1 else n.1 + 1, e⟩
  if roundsTo m q near then some near
  else if roundsTo m q far then some far
  else none

/-- Drops the zeros at the end of the digits, at most `fuel` of them. -/
def dropZeros : Nat → Scientific → Scientific
  | 0, s => s
  | fuel + 1, s =>
    if s.digits ≠ 0 ∧ s.digits % 10 = 0 then dropZeros fuel ⟨s.digits / 10, s.exponent + 1⟩ else s

/-- The shortest decimal of `m · 2^q`. -/
def shortest (m : Nat) (q : Int) : Scientific :=
  if m = 0 then ⟨0, 0⟩
  else
    let v := scaled m q
    let k := leadingExponent v.1 v.2
    let grids := (List.range 17).map fun n => k - Int.ofNat n
    dropZeros 20 ((grids.findSome? (onGrid m q)).getD ⟨m, 0⟩)

/-! ### Layout -/

/-- How the digits of a number are laid out. The leading digit's exponent decides between
positional and exponent form; a whole number may keep a zero after the point. -/
structure Layout where
  /-- The exponents written without an exponent form, ends included; `none` for all. -/
  positional : Option (Int × Int)
  /-- Whether a whole number ends in `.0`. -/
  wholeZero : Bool

/-- Digits without an exponent form. -/
def positionalText (wholeZero : Bool) (s : Scientific) : String :=
  let ds := Nat.toDigits 10 s.digits
  if 0 ≤ s.exponent then
    String.ofList (ds ++ List.replicate (if s.digits = 0 then 0 else s.exponent.toNat) '0') ++
      (if wholeZero then ".0" else "")
  else
    let places := (-s.exponent).toNat
    let padded := List.replicate (places + 1 - ds.length) '0' ++ ds
    String.ofList (padded.take (padded.length - places)) ++ "." ++
      String.ofList (padded.drop (padded.length - places))

/-- Digits with an exponent, the point after the first one. -/
def exponentText (s : Scientific) : String :=
  let ds := Nat.toDigits 10 s.digits
  let lead := s.exponent + Int.ofNat (ds.length - 1)
  String.ofList (ds.take 1) ++
    (if ds.length = 1 then "" else "." ++ String.ofList (ds.drop 1)) ++
    "e" ++ (if 0 ≤ lead then "+" else "") ++ intText lead

/-- The text of a decimal in a layout. -/
def Layout.write (l : Layout) (s : Scientific) : String :=
  let lead := s.exponent + Int.ofNat ((Nat.toDigits 10 s.digits).length - 1)
  match l.positional with
  | none => positionalText l.wholeZero s
  | some (low, high) =>
    if s.digits = 0 ∨ (low ≤ lead ∧ lead ≤ high) then positionalText l.wholeZero s
    else exponentText s

/-- The text of a double in a layout. -/
def Layout.floatText (l : Layout) (x : Float) : String :=
  match Binary.ofFloat x with
  | .nan => "NaN"
  | .infinite negative => if negative then "-inf" else "inf"
  | .finite negative m q => (if negative then "-" else "") ++ l.write (shortest m q)

/-- Numbers in messages have no exponent form, and a whole number has no point. -/
def plain : Layout := ⟨none, false⟩

end GaleraHealth.Decimal
