/-!
# Floats as exact binary fractions

A finite double is `±m · 2^q` with natural `m` below `2^53`. Its decimal texts are computed from
these two numbers in exact arithmetic, so this file is the only place that looks at the bits.
-/

namespace GaleraHealth.Decimal

/-- A double taken apart. -/
inductive Binary where
  | nan
  | infinite (negative : Bool)
  | finite (negative : Bool) (significand : Nat) (exponent : Int)
  deriving DecidableEq, Repr

/-- The first binary digit of a significand, which is not stored. -/
def leadingBit : Nat := 0x10000000000000

/-- The parts of a double, read off its bits. -/
def Binary.ofFloat (x : Float) : Binary :=
  let bits := x.toBits.toNat
  let negative := bits >>> 63 == 1
  let biased := bits >>> 52 % 0x800
  let fraction := bits % leadingBit
  if biased = 2047 then
    if fraction = 0 then .infinite negative else .nan
  else if biased = 0 then .finite negative fraction (-1074)
  else .finite negative (leadingBit + fraction) (Int.ofNat biased - 1075)

/-- `n · 2^q` for a possibly negative `q`, as a quotient of natural numbers. -/
def scaled (n : Nat) (q : Int) : Nat × Nat :=
  if 0 ≤ q then (n * Nat.pow 2 q.toNat, 1) else (n, Nat.pow 2 (-q).toNat)

/-- The quotient rounded to the nearest natural number, halves to the even neighbour. -/
def roundHalfEven (num den : Nat) : Nat :=
  let low := num / den
  let rest := num % den
  if 2 * rest < den then low
  else if den < 2 * rest then low + 1
  else if low % 2 = 0 then low else low + 1

/-- Rounding moves a quotient by half a unit at most. -/
theorem roundHalfEven_near (num : Nat) {den : Nat} (h : 0 < den) :
    2 * num ≤ 2 * (den * roundHalfEven num den) + den ∧
      2 * (den * roundHalfEven num den) ≤ 2 * num + den := by
  have whole := Nat.div_add_mod num den
  have rest := Nat.mod_lt num h
  have up : den * (num / den + 1) = den * (num / den) + den := Nat.mul_succ den (num / den)
  unfold roundHalfEven
  dsimp only
  split
  · omega
  · split
    · rw [up]
      omega
    · split
      · omega
      · rw [up]
        omega

/-- The natural number that the double nearest to `n` stands for. A double has 53 binary digits. -/
def nearestNat (n : Nat) : Nat :=
  let place := Nat.pow 2 (n.log2 - 52)
  roundHalfEven n place * place

def natText (n : Nat) : String :=
  String.ofList (Nat.toDigits 10 n)

/-- A number is written in digits only. -/
theorem notMem_natText {c : Char} (h : c.isDigit = false) (n : Nat) : c ∉ (natText n).toList := by
  intro hc
  rw [natText, String.toList_ofList] at hc
  have hdigit := Nat.isDigit_of_mem_toDigits (by decide) (by decide) hc
  rw [h] at hdigit
  cases hdigit

/-- The decimal digits of an integer, after a minus sign if it is negative. -/
def intText (n : Int) : String :=
  if n < 0 then "-" ++ natText n.natAbs else natText n.natAbs

/-- An integer is written in digits and the minus sign only. -/
theorem notMem_intText {c : Char} (h : c.isDigit = false) (hminus : c ≠ '-') (n : Int) :
    c ∉ (intText n).toList := by
  rw [intText]
  split
  · rw [String.toList_append, List.mem_append, not_or]
    refine ⟨?_, notMem_natText h _⟩
    show c ∉ ['-']
    rw [List.mem_singleton]
    exact hminus
  · exact notMem_natText h _

end GaleraHealth.Decimal
