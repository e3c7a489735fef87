import GaleraHealth.Proofs.DoubleOrder

/-!
# Rounding to doubles

A quotient that is no double is replaced by the nearest one, and a tie goes to the neighbour with
the even significand. The machine cuts a quotient off after enough digits and keeps two more bits
for what it has cut off. Here that is the same as rounding the exact quotient once, and rounding
keeps the order of the numbers.

* `truncated`, `shiftRight_truncated`, `roundedMantissa_truncated`: what is kept of a quotient, and
  that it is enough to round it half to even.
* `exists_round`: the significand and the exponent of a rounded quotient.
* `RoundsTo`, `RoundsTo.mono`, `Nearest.mono`: the nearest double as a fact about fractions, and the
  order.
* `exists_parts_ofNat`, `exists_parts_div`: natural numbers and quotients as doubles.
* `exists_parts_nearestNat`: the value of a word that has become a double.
* `toFloat_le`, `quotient_self`, `quotient_le_quotient`: the laws that shares need.
-/

namespace GaleraHealth.Double

open Float.Model (Format UnpackedFloat totalExponent)
open Float.Model.UnpackedFloat
open Decimal (roundHalfEven)

/-! ### Rounding half to even -/

/-- A tie goes to the even neighbour: next to an odd one there was none. -/
theorem roundHalfEven_odd {num den : ℕ} (h : 0 < den) (hodd : roundHalfEven num den % 2 = 1) :
    2 * num < den * (2 * roundHalfEven num den + 1) ∧
      den * (2 * roundHalfEven num den) < 2 * num + den := by
  have hwhole := Nat.div_add_mod num den
  have hrest := Nat.mod_lt num h
  have hup : den * (num / den + 1) = den * (num / den) + den := Nat.mul_succ den (num / den)
  rw [mul_add, mul_left_comm, mul_one]
  rcases lt_trichotomy (2 * (num % den)) den with hlt | heq | hgt
  · have hvalue : roundHalfEven num den = num / den := by
      rw [roundHalfEven, if_pos hlt]
    rw [hvalue]
    omega
  · have heven : roundHalfEven num den % 2 = 0 := by
      rw [roundHalfEven, if_neg (by omega), if_neg (by omega)]
      split <;> omega
    omega
  · have hvalue : roundHalfEven num den = num / den + 1 := by
      rw [roundHalfEven, if_neg (by omega), if_pos hgt]
    rw [hvalue, hup]
    omega

theorem roundHalfEven_bounds {num den : ℕ} (hden : 0 < den) (hlow : 2 ^ 52 * den ≤ num)
    (hhigh : num < 2 ^ 53 * den) :
    2 ^ 52 ≤ roundHalfEven num den ∧ roundHalfEven num den ≤ 2 ^ 53 := by
  obtain ⟨hbelow, habove⟩ := Decimal.roundHalfEven_near num hden
  generalize roundHalfEven num den = n at hbelow habove ⊢
  constructor
  · by_contra hlt
    have hstep : den * (n + 1) ≤ den * 2 ^ 52 := Nat.mul_le_mul_left den (by omega)
    linarith only [hbelow, hlow, hstep, hden]
  · by_contra hlt
    have hstep : den * (2 ^ 53 + 1) ≤ den * n := Nat.mul_le_mul_left den (by omega)
    linarith only [habove, hhigh, hstep, hden]

/-! ### Quotients that are cut off -/

/-- The whole part of `num / den`, and how far the quotient lies above it. -/
def truncated (num den : ℕ) : ExtendedMantissa :=
  .ofMantissaAndAccuracy (num / den) (accuracyOfFraction (num % den) den)

theorem mantissa_truncated (num den : ℕ) : (truncated num den).mantissa = num / den := by
  unfold truncated ExtendedMantissa.ofMantissaAndAccuracy
  split <;> rfl

theorem residue_truncated (num den : ℕ) :
    ((truncated num den).roundBit || (truncated num den).stickyBit) =
      decide (num % den ≠ 0) := by
  unfold truncated accuracyOfFraction
  by_cases h : num % den = 0
  · simp [h, ExtendedMantissa.ofMantissaAndAccuracy]
  · rw [if_neg h]
    cases compare (2 * (num % den)) den <;> simp [h, ExtendedMantissa.ofMantissaAndAccuracy]

theorem ofMantissaAndAccuracy_exact (n : ℕ) :
    ExtendedMantissa.ofMantissaAndAccuracy n .exact = truncated n 1 := by
  rw [truncated, Nat.div_one, Nat.mod_one, accuracyOfFraction, if_pos rfl]

/-- A digit less is a division by two. -/
theorem shiftRightOne_truncated (num : ℕ) {den : ℕ} (h : 0 < den) :
    (truncated num den).shiftRightOne = truncated num (den * 2) := by
  have hdiv : num / (den * 2) = num / den / 2 := (Nat.div_div_eq_div_mul num den 2).symm
  have hmod : num % (den * 2) = num % den + den * (num / den % 2) := Nat.mod_mul
  have hlt := Nat.mod_lt num h
  rw [ExtendedMantissa.shiftRightOne, mantissa_truncated, residue_truncated, truncated, hdiv, hmod,
    accuracyOfFraction]
  -- the digit that goes decides between the halves, the rest between a tie and its neighbours
  rcases Nat.mod_two_eq_zero_or_one (num / den) with hbit | hbit
  · rw [hbit, mul_zero, add_zero]
    by_cases hrest : num % den = 0
    · rw [if_pos hrest]
      simp [hrest, ExtendedMantissa.ofMantissaAndAccuracy]
    · rw [if_neg hrest, Nat.compare_eq_lt.mpr (by omega)]
      simp [hrest, ExtendedMantissa.ofMantissaAndAccuracy]
  · rw [hbit, mul_one, if_neg (by omega)]
    by_cases hrest : num % den = 0
    · rw [Nat.compare_eq_eq.mpr (by omega)]
      simp [hrest, ExtendedMantissa.ofMantissaAndAccuracy]
    · rw [Nat.compare_eq_gt.mpr (by omega)]
      simp [hrest, ExtendedMantissa.ofMantissaAndAccuracy]

theorem shiftRight_truncated (num : ℕ) {den : ℕ} (h : 0 < den) (k : ℕ) :
    truncated num den >>> k = truncated num (den * 2 ^ k) := by
  show k.repeat ExtendedMantissa.shiftRightOne (truncated num den) = _
  induction k with
  | zero =>
    rw [pow_zero, mul_one]
    rfl
  | succ k ih =>
    show (k.repeat ExtendedMantissa.shiftRightOne (truncated num den)).shiftRightOne = _
    rw [ih, shiftRightOne_truncated num (Nat.mul_pos h (Nat.two_pow_pos k)), pow_succ, mul_assoc]

/-- What is kept of a quotient is enough to round it. -/
theorem roundedMantissa_truncated (num : ℕ) {den : ℕ} (h : 0 < den) :
    (truncated num den).roundedMantissa = roundHalfEven num den := by
  rw [truncated, accuracyOfFraction, roundHalfEven]
  by_cases hrest : num % den = 0
  · rw [if_pos hrest, if_pos (by omega)]
    rfl
  · rw [if_neg hrest]
    rcases lt_trichotomy (2 * (num % den)) den with hlt | heq | hgt
    · rw [Nat.compare_eq_lt.mpr hlt, if_pos hlt]
      rfl
    · rw [Nat.compare_eq_eq.mpr heq, if_neg (by omega), if_neg (by omega)]
      show num / den + num / den % 2 = _
      split <;> omega
    · rw [Nat.compare_eq_gt.mpr hgt, if_neg (by omega), if_pos hgt]
      rfl

/-! ### Significand and exponent of a quotient -/

/-- The shift that leaves 53 digits. -/
theorem shiftToTargetExponent_of_log {n k : ℕ} {e : ℤ} (a : Accuracy) (hlog : n.log2 = 52 + k)
    (he : -1074 ≤ e + k) : shiftToTargetExponent .binary64 n e a =
      (ExtendedMantissa.ofMantissaAndAccuracy n a >>> k, e + k) := by
  have htarget : Format.binary64.targetExponent (totalExponent n e) = e + k := by
    show max ((n.log2 : ℤ) + 1 + e - (53 : ℕ)) (3 - 2 ^ 10 - (53 : ℕ)) = e + k
    rw [hlog]
    omega
  have hshift : (e + k - e).toNat = k := by omega
  rw [shiftToTargetExponent, htarget, shiftToExponent, hshift]

/-- A quotient with `53 + k` digits before the point is rounded to 53 digits, and where rounding up
makes one digit more, the exponent takes it. -/
theorem exists_round {num den k : ℕ} {e : ℤ} (hden : 0 < den)
    (hlow : 2 ^ 52 * (den * 2 ^ k) ≤ num) (hhigh : num < 2 ^ 53 * (den * 2 ^ k))
    (he : -1074 ≤ e + k) : ∃ m f h,
      roundWithAccuracy .binary64 .positive (num / den) e (accuracyOfFraction (num % den) den) =
        .finite .positive m f h ∧ 2 ^ 52 ≤ m ∧ m < 2 ^ 53 ∧ e + k ≤ f ∧ f ≤ e + k + 1 ∧
      f * 2 ^ 52 + m = (e + k) * 2 ^ 52 + roundHalfEven num (den * 2 ^ k) := by
  have hpos : 0 < den * 2 ^ k := Nat.mul_pos hden (Nat.two_pow_pos k)
  obtain ⟨hn, hn'⟩ := roundHalfEven_bounds hpos hlow hhigh
  have hlog : (num / den).log2 = 52 + k := by
    have hfloor : 2 ^ (52 + k) ≤ num / den := by
      rw [Nat.le_div_iff_mul_le hden, pow_add]
      linarith only [hlow]
    have hne : num / den ≠ 0 := (Nat.lt_of_lt_of_le (Nat.two_pow_pos _) hfloor).ne'
    refine (Nat.log2_eq_iff hne).mpr ⟨hfloor, ?_⟩
    rw [Nat.div_lt_iff_lt_mul hden, pow_add, pow_add]
    linarith only [hhigh]
  have hshifted := shiftToTargetExponent_of_log (accuracyOfFraction (num % den) den) hlog he
  rw [← truncated, shiftRight_truncated num hden] at hshifted
  rw [roundWithAccuracy, hshifted]
  dsimp only
  rw [roundedMantissa_truncated num hpos]
  generalize roundHalfEven num (den * 2 ^ k) = n at hn hn' ⊢
  obtain ⟨j, hj, hdigits⟩ : ∃ j ≤ 1, n.log2 = 52 + j := by
    rcases Nat.lt_or_eq_of_le hn' with hlt | rfl
    · exact ⟨0, Nat.zero_le 1, (Nat.log2_eq_iff (by omega)).mpr ⟨hn, hlt⟩⟩
    · exact ⟨1, Nat.le_refl 1, by decide⟩
  rw [shiftToTargetExponent_of_log .exact hdigits (by omega), ofMantissaAndAccuracy_exact,
    shiftRight_truncated n Nat.one_pos]
  dsimp only
  rw [mantissa_truncated, one_mul]
  obtain ⟨hlower, hupper⟩ := (Nat.log2_eq_iff (by omega)).mp hdigits
  -- with one digit more, nothing but that digit is there
  have hsplit : n = n / 2 ^ j * 2 ^ j ∧ 2 ^ 52 ≤ n / 2 ^ j ∧ n / 2 ^ j < 2 ^ 53 := by
    obtain rfl | rfl : j = 0 ∨ j = 1 := by omega
    · omega
    · omega
  obtain ⟨hwhole, hlow', hhigh'⟩ := hsplit
  rw [dif_neg (by omega)]
  refine ⟨n / 2 ^ j, e + k + j, by omega, rfl, hlow', hhigh', by omega, by omega, ?_⟩
  obtain rfl | rfl : j = 0 ∨ j = 1 := by omega
  · omega
  · omega

/-! ### The nearest double -/

/-- `m · 2^e` is nearest to `v` among the numbers with 53 binary digits. -/
structure RoundsTo (v : ℚ) (m : ℕ) (e : ℤ) : Prop where
  low : 2 ^ 52 * 2 ^ e ≤ v
  high : v < 2 ^ 53 * 2 ^ e
  below : (2 * m - 1) * 2 ^ e ≤ 2 * v
  above : 2 * v ≤ (2 * m + 1) * 2 ^ e
  /-- A tie goes to the even neighbour. -/
  odd : m % 2 = 1 → (2 * m - 1) * 2 ^ e < 2 * v ∧ 2 * v < (2 * m + 1) * 2 ^ e

namespace RoundsTo

theorem of_quotient {num den : ℕ} (e : ℤ) (h : 0 < den) (hlow : 2 ^ 52 * den ≤ num)
    (hhigh : num < 2 ^ 53 * den) :
    RoundsTo (num / den * 2 ^ e) (roundHalfEven num den) e := by
  have hpow : (0 : ℚ) < 2 ^ e := by positivity
  have hden : (0 : ℚ) < den := by exact_mod_cast h
  obtain ⟨habove, hbelow⟩ := Decimal.roundHalfEven_near num h
  have hodd : roundHalfEven num den % 2 = 1 → _ := roundHalfEven_odd h
  generalize roundHalfEven num den = n at habove hbelow hodd ⊢
  refine ⟨?_, ?_, ?_, ?_, ?_⟩
  · rw [mul_le_mul_iff_left₀ hpow, le_div_iff₀ hden]
    exact_mod_cast hlow
  · rw [mul_lt_mul_iff_left₀ hpow, div_lt_iff₀ hden]
    exact_mod_cast hhigh
  · have hcast : (2 * (den * n) : ℚ) ≤ 2 * num + den := by exact_mod_cast hbelow
    rw [← mul_assoc, mul_le_mul_iff_left₀ hpow, ← mul_div_assoc, le_div_iff₀ hden]
    linarith only [hcast]
  · have hcast : (2 * num : ℚ) ≤ 2 * (den * n) + den := by exact_mod_cast habove
    rw [← mul_assoc, mul_le_mul_iff_left₀ hpow, ← mul_div_assoc, div_le_iff₀ hden]
    linarith only [hcast]
  · intro hn
    obtain ⟨hup, hdown⟩ := hodd hn
    have hup' : (2 * num : ℚ) < den * (2 * n + 1) := by exact_mod_cast hup
    have hdown' : (den * (2 * n) : ℚ) < 2 * num + den := by exact_mod_cast hdown
    constructor
    · rw [← mul_assoc, mul_lt_mul_iff_left₀ hpow, ← mul_div_assoc, lt_div_iff₀ hden]
      linarith only [hdown']
    · rw [← mul_assoc, mul_lt_mul_iff_left₀ hpow, ← mul_div_assoc, div_lt_iff₀ hden]
      linarith only [hup']

theorem bounds {v : ℚ} {m : ℕ} {e : ℤ} (h : RoundsTo v m e) : 2 ^ 52 ≤ m ∧ m ≤ 2 ^ 53 := by
  have hpow : (0 : ℚ) < 2 ^ e := by positivity
  constructor
  · have hle : (2 : ℚ) ^ 53 * 2 ^ e ≤ (2 * m + 1) * 2 ^ e := by
      linarith only [h.low, h.above]
    rw [mul_le_mul_iff_left₀ hpow] at hle
    have hnat : 2 ^ 53 ≤ 2 * m + 1 := by exact_mod_cast hle
    omega
  · have hlt : ((2 : ℚ) * m - 1) * 2 ^ e < 2 ^ 54 * 2 ^ e := by
      linarith only [h.high, h.below]
    rw [mul_lt_mul_iff_left₀ hpow, sub_lt_iff_lt_add] at hlt
    have hnat : 2 * m < 2 ^ 54 + 1 := by exact_mod_cast hlt
    omega

/-- **Rounding keeps the order**, across powers of two as well. -/
theorem mono {v w : ℚ} {m n : ℕ} {e f : ℤ} (hv : RoundsTo v m e) (hw : RoundsTo w n f)
    (hle : v ≤ w) : e * 2 ^ 52 + m ≤ f * 2 ^ 52 + n := by
  have hm := hv.bounds
  have hn := hw.bounds
  have hpow : (0 : ℚ) < 2 ^ e := by positivity
  have hef : e < f + 1 := by
    rw [← zpow_lt_zpow_iff_right₀ (one_lt_two (α := ℚ)), zpow_add₀ two_ne_zero, zpow_one]
    linarith only [hv.low, hw.high, hle]
  rcases (Int.lt_add_one_iff.mp hef).lt_or_eq with hlt | rfl
  · omega
  · by_contra hgt
    have hstep : (n : ℚ) + 1 ≤ m := by exact_mod_cast (by omega)
    have hmid : (2 * n + 1 : ℚ) * 2 ^ e ≤ (2 * m - 1) * 2 ^ e := by
      rw [mul_le_mul_iff_left₀ hpow]
      linarith only [hstep]
    -- both would be a tie between two neighbours, of which one is odd
    have htie : (2 * m - 1 : ℚ) * 2 ^ e ≤ (2 * n + 1) * 2 ^ e := by
      linarith only [hv.below, hw.above, hle]
    rw [mul_le_mul_iff_left₀ hpow] at htie
    have hnext : (m : ℚ) = n + 1 := by linarith only [htie, hstep]
    have hnat : m = n + 1 := by exact_mod_cast hnext
    rcases Nat.mod_two_eq_zero_or_one n with heven | hodd
    · linarith only [(hv.odd (by omega)).1, hmid, hw.above, hle]
    · linarith only [(hw.odd hodd).2, hmid, hv.below, hle]

end RoundsTo

/-- The double nearest to `v` has the place `p` among the doubles. -/
def Nearest (v : ℚ) (p : ℤ) : Prop := ∃ m e, RoundsTo v m e ∧ p = e * 2 ^ 52 + m

theorem Nearest.mono {v w : ℚ} {p q : ℤ} (hv : Nearest v p) (hw : Nearest w q) (h : v ≤ w) :
    p ≤ q := by
  obtain ⟨m, e, hm, rfl⟩ := hv
  obtain ⟨n, f, hn, rfl⟩ := hw
  exact hm.mono hn h

/-- **A rounded quotient** is the double nearest to it. -/
theorem exists_parts_round {num den k : ℕ} {e : ℤ} (hden : 0 < den)
    (hlow : 2 ^ 52 * (den * 2 ^ k) ≤ num) (hhigh : num < 2 ^ 53 * (den * 2 ^ k))
    (he : -1074 ≤ e + k) (he' : e + k ≤ 970) : ∃ m f,
      Parts ⟨Float.Model.pack (roundWithAccuracy .binary64 .positive (num / den) e
        (accuracyOfFraction (num % den) den))⟩ m f ∧ e + k ≤ f ∧ f ≤ e + k + 1 ∧
      Nearest (num / den * 2 ^ e) (f * 2 ^ 52 + m) := by
  obtain ⟨m, f, h, hround, hm, hm', hf, hf', hplace⟩ := exists_round hden hlow hhigh he
  have hpos : 0 < den * 2 ^ k := Nat.mul_pos hden (Nat.two_pow_pos k)
  have hexact : (num / den * 2 ^ e : ℚ) = num / (den * 2 ^ k : ℕ) * 2 ^ (e + k) := by
    have hne : (den : ℚ) ≠ 0 := by exact_mod_cast hden.ne'
    rw [zpow_add₀ two_ne_zero, zpow_natCast]
    push_cast
    field_simp
  refine ⟨m, f, ⟨h, by rw [hround], hm, hm', by omega, by omega⟩, hf, hf', _, _, ?_, hplace⟩
  rw [hexact]
  exact .of_quotient _ hpos hlow hhigh

/-! ### Natural numbers -/

theorem ofNat_eq {n : ℕ} (h : 0 < n) : UnpackedFloat.ofNat .binary64 n =
    roundWithAccuracy .binary64 .positive (n * 2 ^ (52 - n.log2)) (-(52 - n.log2 : ℕ))
      .exact := by
  have hgt : compare (n : ℤ) 0 = .gt := Int.compare_eq_gt.mpr (by omega)
  have htarget : Format.binary64.targetExponent (totalExponent n 0) = (n.log2 : ℤ) - 52 := by
    show max ((n.log2 : ℤ) + 1 + 0 - (53 : ℕ)) (3 - 2 ^ 10 - (53 : ℕ)) = (n.log2 : ℤ) - 52
    omega
  have hshift : (0 - ((n.log2 : ℤ) - 52)).toNat = 52 - n.log2 := by omega
  rw [UnpackedFloat.ofNat, UnpackedFloat.ofInt, UnpackedFloat.normalize, hgt]
  dsimp only
  rw [Int.toNat_natCast, UnpackedFloat.round, htarget, decreaseExponent, hshift]
  dsimp only
  rw [Nat.shiftLeft_eq, zero_sub]

/-- **A natural number** becomes the double nearest to it. -/
theorem exists_parts_ofNat {n : ℕ} (hpos : 0 < n) (hlt : n < 2 ^ 64) : ∃ m e,
    Parts ⟨Float.Model.pack (.ofNat .binary64 n)⟩ m e ∧ -52 ≤ e ∧ e ≤ 12 ∧
      Nearest n (e * 2 ^ 52 + m) := by
  have hlog : n.log2 < 64 := (Nat.log2_lt hpos.ne').mpr hlt
  have hlow : 2 ^ 52 * (1 * 2 ^ (n.log2 - 52)) ≤ n * 2 ^ (52 - n.log2) := by
    calc 2 ^ 52 * (1 * 2 ^ (n.log2 - 52))
      _ = 2 ^ n.log2 * 2 ^ (52 - n.log2) := by
          rw [one_mul, ← pow_add, ← pow_add]
          congr 1
          omega
      _ ≤ n * 2 ^ (52 - n.log2) := Nat.mul_le_mul_right _ (Nat.log2_self_le hpos.ne')
  have hhigh : n * 2 ^ (52 - n.log2) < 2 ^ 53 * (1 * 2 ^ (n.log2 - 52)) := by
    calc n * 2 ^ (52 - n.log2)
      _ < 2 ^ (n.log2 + 1) * 2 ^ (52 - n.log2) :=
          Nat.mul_lt_mul_of_pos_right Nat.lt_log2_self (Nat.two_pow_pos _)
      _ = 2 ^ 53 * (1 * 2 ^ (n.log2 - 52)) := by
          rw [one_mul, ← pow_add, ← pow_add]
          congr 1
          omega
  obtain ⟨m, f, hparts, hf, hf', hnearest⟩ := exists_parts_round
    (e := -(52 - n.log2 : ℕ)) Nat.one_pos hlow hhigh (by omega) (by omega)
  have hexact : ((n * 2 ^ (52 - n.log2) : ℕ) : ℚ) / (1 : ℕ) * 2 ^ (-(52 - n.log2 : ℕ) : ℤ) =
      n := by
    rw [zpow_neg, zpow_natCast]
    push_cast
    field_simp
  rw [Nat.div_one, Nat.mod_one, accuracyOfFraction, if_pos rfl, ← ofNat_eq hpos] at hparts
  rw [hexact] at hnearest
  exact ⟨m, f, hparts, by omega, by omega, hnearest⟩

theorem exists_parts_toFloat {a : UInt64} (h : a ≠ 0) : ∃ m e, Parts a.toFloat m e ∧
    -52 ≤ e ∧ e ≤ 12 ∧ Nearest a.toNat (e * 2 ^ 52 + m) :=
  exists_parts_ofNat (Nat.pos_of_ne_zero fun hzero => h (UInt64.toNat_inj.mp hzero)) a.toNat_lt

/-- The place of a double fixes its value, also where a significand has one digit too many. -/
theorem value_of_place {m n : ℕ} {e f : ℤ} (hm : 2 ^ 52 ≤ m) (hm' : m < 2 ^ 53) (hn : 2 ^ 52 ≤ n)
    (hn' : n ≤ 2 ^ 53) (h : e * 2 ^ 52 + m = f * 2 ^ 52 + n) : (m * 2 ^ e : ℚ) = n * 2 ^ f := by
  rcases Nat.lt_or_eq_of_le hn' with hlt | rfl
  · obtain rfl : e = f := by omega
    obtain rfl : m = n := by omega
    rfl
  · obtain rfl : e = f + 1 := by omega
    obtain rfl : m = 2 ^ 52 := by omega
    rw [zpow_add₀ two_ne_zero, zpow_one]
    push_cast
    ring

theorem roundHalfEven_one (n : ℕ) : roundHalfEven n 1 = n := by
  rw [roundHalfEven, Nat.div_one, Nat.mod_one, if_pos Nat.one_pos]

/-- A number with at most 53 digits is a double itself. -/
theorem nearestNat_of_log2 {n : ℕ} (h : n.log2 ≤ 52) : Decimal.nearestNat n = n := by
  have hplace : Nat.pow 2 (n.log2 - 52) = 1 := by
    rw [Nat.sub_eq_zero_of_le h]
  rw [Decimal.nearestNat, hplace, roundHalfEven_one, mul_one]

theorem roundsTo_nearestNat {n : ℕ} (hpos : 0 < n) : ∃ m e, RoundsTo n m e ∧
    (m * 2 ^ e : ℚ) = Decimal.nearestNat n := by
  have hfloor := Nat.log2_self_le hpos.ne'
  have hceiling : n < 2 ^ (n.log2 + 1) := Nat.lt_log2_self
  rcases Nat.le_total n.log2 52 with hle | hle
  · obtain ⟨k, hk⟩ := Nat.exists_eq_add_of_le hle
    have hlow : 2 ^ 52 * 1 ≤ n * 2 ^ k := by
      calc 2 ^ 52 * 1
        _ = 2 ^ n.log2 * 2 ^ k := by rw [mul_one, ← pow_add, hk]
        _ ≤ n * 2 ^ k := Nat.mul_le_mul_right _ hfloor
    have hhigh : n * 2 ^ k < 2 ^ 53 * 1 := by
      calc n * 2 ^ k
        _ < 2 ^ (n.log2 + 1) * 2 ^ k := Nat.mul_lt_mul_of_pos_right hceiling (Nat.two_pow_pos k)
        _ = 2 ^ 53 * 1 := by rw [mul_one, ← pow_add, Nat.add_right_comm, ← hk]
    have hexact : ((n * 2 ^ k : ℕ) / (1 : ℕ) * 2 ^ (-k : ℤ) : ℚ) = n := by
      rw [zpow_neg, zpow_natCast]
      push_cast
      field_simp
    have hrounds := RoundsTo.of_quotient (-k) Nat.one_pos hlow hhigh
    rw [hexact, roundHalfEven_one] at hrounds
    refine ⟨_, _, hrounds, ?_⟩
    rw [nearestNat_of_log2 hle, zpow_neg, zpow_natCast]
    push_cast
    field_simp
  · obtain ⟨k, hk⟩ := Nat.exists_eq_add_of_le hle
    have hlow : 2 ^ 52 * 2 ^ k ≤ n := by
      rwa [hk, pow_add] at hfloor
    have hhigh : n < 2 ^ 53 * 2 ^ k := by
      rwa [hk, Nat.add_right_comm, pow_add] at hceiling
    have hexact : (n / (2 ^ k : ℕ) * 2 ^ (k : ℤ) : ℚ) = n := by
      rw [zpow_natCast]
      push_cast
      field_simp
    have hrounds := RoundsTo.of_quotient k (Nat.two_pow_pos k) hlow hhigh
    rw [hexact] at hrounds
    refine ⟨_, _, hrounds, ?_⟩
    have hplace : Nat.pow 2 (n.log2 - 52) = 2 ^ k := by
      rw [hk, Nat.add_sub_cancel_left]
      rfl
    rw [Decimal.nearestNat, hplace, zpow_natCast]
    push_cast
    rfl

/-- **The value of a word as a double** is a natural number. -/
theorem exists_parts_nearestNat {a : UInt64} (h : a ≠ 0) : ∃ m e, Parts a.toFloat m e ∧
    (m * 2 ^ e : ℚ) = Decimal.nearestNat a.toNat := by
  obtain ⟨m, e, hparts, -, -, hnearest⟩ := exists_parts_toFloat h
  have hpos : 0 < a.toNat := Nat.pos_of_ne_zero fun hzero => h (UInt64.toNat_inj.mp hzero)
  obtain ⟨n, f, hrounds, hvalue⟩ := roundsTo_nearestNat hpos
  have hnearest' : Nearest a.toNat (f * 2 ^ 52 + n) := ⟨n, f, hrounds, rfl⟩
  have hplace := le_antisymm (hnearest.mono hnearest' le_rfl) (hnearest'.mono hnearest le_rfl)
  obtain ⟨hn, hn'⟩ := hrounds.bounds
  exact ⟨m, e, hparts, (value_of_place hparts.low hparts.high hn hn' hplace).trans hvalue⟩

theorem zero_toFloat : (0 : UInt64).toFloat = 0.0 := by
  decide

theorem zero_lt_toFloat {a : UInt64} (h : a ≠ 0) : 0.0 < a.toFloat := by
  obtain ⟨m, e, hparts, -⟩ := exists_parts_toFloat h
  exact hparts.zero_lt

/-- Words keep their order. -/
theorem toFloat_le {a b : UInt64} (h : a ≤ b) : a.toFloat ≤ b.toFloat := by
  by_cases ha : a = 0
  · rw [ha, zero_toFloat]
    by_cases hb : b = 0
    · rw [hb, zero_toFloat]
      exact zero_le_zero
    · exact le_of_lt (zero_lt_toFloat hb)
  · have hb : b ≠ 0 := by
      rintro rfl
      exact ha (UInt64.le_antisymm h (UInt64.zero_le))
    obtain ⟨m, e, hparts, -, -, hnearest⟩ := exists_parts_toFloat ha
    obtain ⟨n, f, hparts', -, -, hnearest'⟩ := exists_parts_toFloat hb
    refine (hparts.le_iff hparts').mpr (hnearest.mono hnearest' ?_)
    exact_mod_cast UInt64.le_iff_toNat_le.mp h

/-! ### Quotients -/

theorem divCore_eq {m n : ℕ} {e f : ℤ} (hm : m.log2 = 52) (hn : n.log2 = 52)
    (h : -1000 ≤ e - f) : divCore .binary64 m e n f =
      (m * 2 ^ 53 / n, e - f - 53, accuracyOfFraction (m * 2 ^ 53 % n) n) := by
  have htarget : Format.binary64.targetExponent (totalExponent m e - totalExponent n f) =
      e - f - 53 := by
    show max ((m.log2 : ℤ) + 1 + e - (n.log2 + 1 + f) - (53 : ℕ)) (3 - 2 ^ 10 - (53 : ℕ)) = _
    rw [hm, hn]
    omega
  have hmin : min (e - f) (e - f - 53) = e - f - 53 := by omega
  have hshift : (e - f - (e - f - 53)).toNat = 53 := by omega
  rw [divCore, htarget, hmin, hshift, Nat.shiftLeft_eq]

/-- **A quotient of doubles** is the double nearest to the quotient of their values. -/
theorem exists_parts_div {x y : Float} {m n : ℕ} {e f : ℤ} (hx : Parts x m e) (hy : Parts y n f)
    (hlow : -1000 ≤ e - f) (hhigh : e - f ≤ 900) : ∃ q g, Parts (x / y) q g ∧
    Nearest ((m * 2 ^ e) / (n * 2 ^ f)) (g * 2 ^ 52 + q) := by
  have hm := hx.low
  have hm' := hx.high
  have hn := hy.low
  have hn' := hy.high
  have hquotient : x / y = ⟨Float.Model.pack (roundWithAccuracy .binary64 .positive
      (m * 2 ^ 53 / n) (e - f - 53) (accuracyOfFraction (m * 2 ^ 53 % n) n))⟩ := by
    show Float.ofModel (Float.Model.pack
      (UnpackedFloat.div .binary64 x.toModel.unpack y.toModel.unpack)) = _
    rw [hx.unpack, hy.unpack, UnpackedFloat.div, divCore_eq hx.log2_eq hy.log2_eq hlow]
    rfl
  -- the quotient has one digit more if the numerator has the larger significand
  obtain ⟨k, hk, hlow', hhigh'⟩ : ∃ k : ℕ, k ≤ 1 ∧ 2 ^ 52 * (n * 2 ^ k) ≤ m * 2 ^ 53 ∧
      m * 2 ^ 53 < 2 ^ 53 * (n * 2 ^ k) := by
    by_cases hle : n ≤ m
    · exact ⟨1, Nat.le_refl 1, by omega, by omega⟩
    · exact ⟨0, Nat.zero_le 1, by omega, by omega⟩
  obtain ⟨q, g, hparts, -, -, hnearest⟩ := exists_parts_round (e := e - f - 53)
    hy.pos hlow' hhigh' (by omega) (by omega)
  have hexact : ((m * 2 ^ 53 : ℕ) / n * 2 ^ (e - f - 53) : ℚ) = (m * 2 ^ e) / (n * 2 ^ f) := by
    have hne : (n : ℚ) ≠ 0 := by exact_mod_cast hy.pos.ne'
    rw [zpow_sub₀ two_ne_zero, zpow_sub₀ two_ne_zero]
    push_cast
    field_simp
  rw [← hquotient] at hparts
  rw [hexact] at hnearest
  exact ⟨q, g, hparts, hnearest⟩

theorem zero_quotient {y : Float} {n : ℕ} {f : ℤ} (h : Parts y n f) : 0.0 / y = 0.0 := by
  have hzero : (0.0 : Float).toModel.unpack = .zero .positive := rfl
  show Float.ofModel (Float.Model.pack (UnpackedFloat.div .binary64 _ y.toModel.unpack)) = _
  rw [hzero, h.unpack, UnpackedFloat.div]
  decide

theorem roundsTo_one : RoundsTo 1 (2 ^ 52) (-52) where
  low := by norm_num
  high := by norm_num
  below := by norm_num
  above := by norm_num
  odd h := by cases h

theorem quotient_self {x : Float} {m : ℕ} {e : ℤ} (h : Parts x m e) : x / x = 1.0 := by
  obtain ⟨q, g, hparts, hnearest⟩ := exists_parts_div h h (by omega) (by omega)
  have hm : (m : ℚ) ≠ 0 := by exact_mod_cast h.pos.ne'
  rw [div_self (by positivity)] at hnearest
  have hone : Nearest 1 (-52 * 2 ^ 52 + (2 ^ 52 : ℕ)) := ⟨_, _, roundsTo_one, rfl⟩
  have hplace := le_antisymm (hnearest.mono hone le_rfl) (hone.mono hnearest le_rfl)
  have hlow := hparts.low
  have hhigh := hparts.high
  obtain rfl : q = 2 ^ 52 := by omega
  obtain rfl : g = -52 := by omega
  exact hparts.packed.trans rfl

/-- Doubles of full precision are ordered by their values. -/
theorem Parts.value_le {x y : Float} {m n : ℕ} {e f : ℤ} (hx : Parts x m e) (hy : Parts y n f)
    (h : x ≤ y) : (m * 2 ^ e : ℚ) ≤ n * 2 ^ f := by
  have hm := hx.high
  have hn := hy.low
  have hplace := (hx.le_iff hy).mp h
  rcases lt_trichotomy e f with hlt | rfl | hgt
  · calc (m * 2 ^ e : ℚ)
      _ ≤ 2 ^ 53 * 2 ^ e := by
          gcongr
          exact_mod_cast hm.le
      _ = 2 ^ 52 * 2 ^ (e + 1) := by
          rw [zpow_add₀ two_ne_zero, zpow_one]
          ring
      _ ≤ n * 2 ^ f := by
          gcongr
          · exact_mod_cast hn
          · exact one_le_two
          · omega
  · gcongr
    omega
  · have := hx.low
    have := hy.high
    omega

/-- A larger numerator makes no smaller quotient. -/
theorem quotient_le_quotient {x x' y : Float} {m m' n : ℕ} {e e' f : ℤ} (hx : Parts x m e)
    (hx' : Parts x' m' e') (hy : Parts y n f) (h : x ≤ x') (hlow : -1000 ≤ e - f)
    (hhigh : e - f ≤ 900) (hlow' : -1000 ≤ e' - f) (hhigh' : e' - f ≤ 900) :
    x / y ≤ x' / y := by
  obtain ⟨q, g, hparts, hnearest⟩ := exists_parts_div hx hy hlow hhigh
  obtain ⟨q', g', hparts', hnearest'⟩ := exists_parts_div hx' hy hlow' hhigh'
  refine (hparts.le_iff hparts').mpr (hnearest.mono hnearest' ?_)
  have hvalue := hx.value_le hx' h
  gcongr

end GaleraHealth.Double
