import GaleraHealth.Proofs.DoubleRounding
import GaleraHealth.Proofs.WellFormedConfig
import GaleraHealth.Summary.Amounts

/-!
# How counts of bytes are written

The unit of a count is chosen first, and the mantissa is rounded to one place afterwards. So the
mantissa is off by half a tenth at most and at least one. But just below a power of 1024 it is
rounded up to 1024 of the smaller unit, where the next unit was due.

* `Amount`, `Amount.text_inj`: what a text says, and that it says nothing else.
* `unitOf_spec`, `unitOf_eq`: the unit that is chosen.
* `tenths_bounds`, `tenths_eq_iff`: the rounded mantissa, and when it is 1024.
* `Amount.Describes`, `formatBytes_describes`: the text of any count, and when it is in normal form.
-/

namespace GaleraHealth.Summary

open Decimal (natText withPlaces fixedQuotient nearestNat roundHalfEven)

/-! ### What a text says -/

/-- A mantissa with one place and one of five units. Bytes are whole. -/
structure Amount where
  /-- The mantissa, in tenths. -/
  tenths : ℕ
  unit : Fin 5
  whole : unit = 0 → 10 ∣ tenths

namespace Amount

/-- The number that is written in front of the unit. -/
def mantissa (a : Amount) : ℚ := a.tenths / 10

/-- How many bytes the unit has. -/
def size (a : Amount) : ℚ := 1024 ^ (a.unit : ℕ)

/-- The mantissa and the letter of the unit. -/
def text (a : Amount) : String :=
  (if a.unit = 0 then natText (a.tenths / 10) else withPlaces 1 a.tenths) ++
    unitLetters.getD a.unit ""

end Amount

/-- One place is a single digit after the point. -/
theorem withPlaces_one (n : ℕ) :
    withPlaces 1 n = natText (n / 10) ++ "." ++ natText (n % 10) := by
  have hlt : n % 10 < 10 := Nat.mod_lt n (by decide)
  have hpow : Nat.pow 10 1 = 10 := rfl
  rw [withPlaces, if_neg Nat.one_ne_zero, hpow, natText, natText, Nat.toDigits_of_lt_base hlt]
  rfl

theorem withPlaces_one_inj {m n : ℕ} (h : withPlaces 1 m = withPlaces 1 n) : m = n := by
  have hpoint : (".").toList = ['.'] := rfl
  have hnone : ∀ n, '.' ∉ (natText n).toList := Decimal.notMem_natText (by decide)
  rw [withPlaces_one, withPlaces_one, ← String.toList_inj] at h
  simp only [String.toList_append, hpoint, List.append_assoc, List.singleton_append] at h
  rw [append_cons_inj_of_notMem_right (hnone _) (hnone _), String.toList_inj, String.toList_inj,
    natText_inj, natText_inj] at h
  omega

/-- **A text says one amount only.** -/
theorem Amount.text_inj {a b : Amount} (h : a.text = b.text) : a = b := by
  have hlength : ∀ u : Fin 5, (unitLetters.getD u "").toList.length = 1 := by decide
  have hletter : ∀ u v : Fin 5, unitLetters.getD u "" = unitLetters.getD v "" → u = v := by decide
  obtain ⟨m, u, hm⟩ := a
  obtain ⟨n, v, hn⟩ := b
  rw [text, text, ← String.toList_inj, String.toList_append, String.toList_append] at h
  obtain ⟨hfront, hback⟩ := List.append_inj' h (by rw [hlength, hlength])
  rw [String.toList_inj] at hfront hback
  obtain rfl := hletter u v hback
  obtain rfl : m = n := by
    by_cases hu : u = 0
    · simp only [if_pos hu, natText_inj] at hfront
      have hten := hm hu
      have hten' := hn hu
      omega
    · simp only [if_neg hu] at hfront
      exact withPlaces_one_inj hfront
  rfl

/-! ### The unit -/

theorem unitOf_spec (n most : ℕ) : unitOf n most ≤ most ∧
    (unitOf n most ≠ 0 → 1024 ^ unitOf n most ≤ n) ∧
    (unitOf n most < most → n < 1024 ^ (unitOf n most + 1)) := by
  induction most with
  | zero => exact ⟨Nat.le_refl 0, fun h => absurd rfl h, fun h => absurd h (Nat.lt_irrefl 0)⟩
  | succ most ih =>
    obtain ⟨hle, hlow, hhigh⟩ := ih
    by_cases h : Nat.pow 1024 (most + 1) ≤ n
    · rw [unitOf, if_pos h]
      exact ⟨Nat.le_refl _, fun _ => h, fun hlt => absurd hlt (Nat.lt_irrefl _)⟩
    · rw [unitOf, if_neg h]
      refine ⟨Nat.le_succ_of_le hle, hlow, fun _ => ?_⟩
      rcases Nat.lt_or_eq_of_le hle with hlt | heq
      · exact hhigh hlt
      · rw [heq]
        exact Nat.lt_of_not_le h

/-- A count between two powers has the unit of the lower one. -/
theorem unitOf_eq {n most k : ℕ} (hk : k < most) (hlow : 1024 ^ k ≤ n)
    (hhigh : n < 1024 ^ (k + 1)) : unitOf n most = k := by
  obtain ⟨-, hlow', hhigh'⟩ := unitOf_spec n most
  rcases Nat.lt_trichotomy (unitOf n most) k with hlt | heq | hgt
  · have hpow : 1024 ^ (unitOf n most + 1) ≤ 1024 ^ k := Nat.pow_le_pow_right (by decide) hlt
    have := hhigh' (hlt.trans hk)
    omega
  · exact heq
  · have hpow : 1024 ^ (k + 1) ≤ 1024 ^ unitOf n most := Nat.pow_le_pow_right (by decide) hgt
    have := hlow' (by omega)
    omega

/-! ### The mantissa -/

section Mantissa

variable {n k : ℕ}

/-- The tenths of a count in a unit. -/
def tenths (n k : ℕ) : ℕ := roundHalfEven (n * 10) (1024 ^ k)

theorem tenths_zero (n : ℕ) : tenths n 0 = n * 10 := by
  rw [tenths, pow_zero, Double.roundHalfEven_one]

theorem tenths_near (n k : ℕ) : 20 * n ≤ 2 * (1024 ^ k * tenths n k) + 1024 ^ k ∧
    2 * (1024 ^ k * tenths n k) ≤ 20 * n + 1024 ^ k := by
  have hpos : 0 < 1024 ^ k := Nat.pow_pos (by decide)
  have hnear := Decimal.roundHalfEven_near (n * 10) hpos
  rw [← tenths] at hnear
  omega

theorem ten_le_tenths (hlow : 1024 ^ k ≤ n) : 10 ≤ tenths n k := by
  have hpos : 0 < 1024 ^ k := Nat.pow_pos (by decide)
  obtain ⟨hnear, -⟩ := tenths_near n k
  by_contra hlt
  have hstep : 1024 ^ k * tenths n k ≤ 1024 ^ k * 9 := Nat.mul_le_mul_left _ (by omega)
  omega

theorem tenths_le (hhigh : n < 1024 ^ (k + 1)) : tenths n k ≤ 10240 := by
  have hpos : 0 < 1024 ^ k := Nat.pow_pos (by decide)
  obtain ⟨-, hnear⟩ := tenths_near n k
  rw [pow_succ] at hhigh
  by_contra hgt
  have hstep : 1024 ^ k * 10241 ≤ 1024 ^ k * tenths n k := Nat.mul_le_mul_left _ (by omega)
  omega

/-- **Just below the next unit**, the mantissa is rounded up to 1024. -/
theorem tenths_eq_iff (hhigh : n < 1024 ^ (k + 1)) :
    tenths n k = 10240 ↔ 20 * 1024 ^ (k + 1) ≤ 20 * n + 1024 ^ k := by
  have hpos : 0 < 1024 ^ k := Nat.pow_pos (by decide)
  have hle := tenths_le hhigh
  obtain ⟨hup, hdown⟩ := tenths_near n k
  rw [pow_succ]
  constructor
  · intro heq
    rw [heq] at hdown
    omega
  · intro hclose
    have hodd : tenths n k % 2 = 1 → 2 * (n * 10) < 1024 ^ k * (2 * tenths n k + 1) ∧ _ :=
      Double.roundHalfEven_odd hpos
    have hge : 10239 ≤ tenths n k := by
      by_contra hlt
      have hstep : 1024 ^ k * tenths n k ≤ 1024 ^ k * 10238 := Nat.mul_le_mul_left _ (by omega)
      omega
    rcases Nat.lt_or_eq_of_le hge with hlt | heq
    · omega
    · -- half way up, the odd neighbour loses
      rw [← heq] at hodd
      have := hodd (by decide)
      omega

end Mantissa

/-! ### Counts of bytes -/

/-- A count that is written in bytes is a double itself. -/
theorem nearestNat_of_lt {n : ℕ} (h : nearestNat n < 1024) : nearestNat n = n := by
  by_cases hlog : n.log2 ≤ 52
  · exact Double.nearestNat_of_log2 hlog
  · have hpos : 0 < n := Nat.pos_of_ne_zero fun hzero => hlog (by rw [hzero]; decide)
    have hplace : 2 ^ (n.log2 - 52) * 2 ^ 52 ≤ n := by
      rw [← pow_add, Nat.sub_add_cancel (Nat.le_of_not_le hlog)]
      exact Nat.log2_self_le hpos.ne'
    have hbig : 2 ^ 52 < n := by
      calc 2 ^ 52
        _ < 2 ^ n.log2 := Nat.pow_lt_pow_right (by decide) (Nat.lt_of_not_le hlog)
        _ ≤ n := Nat.log2_self_le hpos.ne'
    obtain ⟨hnear, -⟩ := Decimal.roundHalfEven_near n (Nat.two_pow_pos (n.log2 - 52))
    have hvalue : nearestNat n = 2 ^ (n.log2 - 52) * roundHalfEven n (2 ^ (n.log2 - 52)) :=
      Nat.mul_comm _ _
    omega

/-- The text of a count describes it: at least one of its unit, bytes exactly, and all else up to
half a tenth. Then the count is taken as the double nearest to it. -/
structure Amount.Describes (a : Amount) (b : UInt64) : Prop where
  least : a.unit ≠ 0 → 1 ≤ a.mantissa
  exact : a.unit = 0 → a.mantissa = b.toNat
  near : a.unit ≠ 0 → ∃ m e, Double.Parts b.toFloat m e ∧
    |a.mantissa * a.size - m * 2 ^ e| ≤ 5 / 100 * a.size

/-- Less than 1024 of a unit, unless there is no larger one. -/
def Amount.InRange (a : Amount) : Prop := a.unit ≠ 4 → a.mantissa < 1024

/-- A count lies below the next unit, by half a tenth of its own unit or less. -/
def JustBelow (b : UInt64) : Prop :=
  ∃ k ≤ 3, nearestNat b.toNat < 1024 ^ (k + 1) ∧
    20 * 1024 ^ (k + 1) ≤ 20 * nearestNat b.toNat + 1024 ^ k

/-- What the text of a number says. -/
def amountOf (n : ℕ) : Amount where
  tenths := tenths n (unitOf n 4)
  unit := ⟨unitOf n 4, Nat.lt_succ_of_le (unitOf_spec n 4).1⟩
  whole h := by
    have hunit : unitOf n 4 = 0 := congrArg Fin.val h
    rw [hunit, tenths_zero]
    exact Nat.dvd_mul_left 10 n

section AmountOf

variable {n : ℕ}

theorem amountOf_unit_eq_zero_iff : (amountOf n).unit = 0 ↔ unitOf n 4 = 0 :=
  Fin.ext_iff

theorem text_amountOf (n : ℕ) : (amountOf n).text = inUnit n (unitOf n 4) := by
  rw [Amount.text, inUnit]
  by_cases h : unitOf n 4 = 0
  · have hten : (amountOf n).tenths / 10 = n := by
      show tenths n (unitOf n 4) / 10 = n
      rw [h, tenths_zero, Nat.mul_div_cancel n (by decide)]
    rw [if_pos (amountOf_unit_eq_zero_iff.mpr h), if_pos h, hten]
    rfl
  · rw [if_neg (mt amountOf_unit_eq_zero_iff.mp h), if_neg h]
    rfl

theorem one_le_mantissa (h : (amountOf n).unit ≠ 0) : 1 ≤ (amountOf n).mantissa := by
  have hlow := (unitOf_spec n 4).2.1 (mt amountOf_unit_eq_zero_iff.mpr h)
  have hten : (10 : ℚ) ≤ (amountOf n).tenths := by exact_mod_cast ten_le_tenths hlow
  rw [Amount.mantissa, le_div_iff₀ (by norm_num)]
  linarith only [hten]

theorem mantissa_zero (h : (amountOf n).unit = 0) : (amountOf n).mantissa = n := by
  have hten : (amountOf n).tenths = n * 10 := by
    show tenths n (unitOf n 4) = n * 10
    rw [amountOf_unit_eq_zero_iff.mp h, tenths_zero]
  rw [Amount.mantissa, hten]
  push_cast
  ring

theorem mantissa_near (n : ℕ) :
    |(amountOf n).mantissa * (amountOf n).size - n| ≤ 5 / 100 * (amountOf n).size := by
  obtain ⟨hup, hdown⟩ := tenths_near n (unitOf n 4)
  have hup' : (20 * n : ℚ) ≤
      2 * (1024 ^ unitOf n 4 * tenths n (unitOf n 4)) + 1024 ^ unitOf n 4 := by
    exact_mod_cast hup
  have hdown' : (2 * (1024 ^ unitOf n 4 * tenths n (unitOf n 4)) : ℚ) ≤
      20 * n + 1024 ^ unitOf n 4 := by
    exact_mod_cast hdown
  show |(tenths n (unitOf n 4) : ℚ) / 10 * 1024 ^ unitOf n 4 - n| ≤ 5 / 100 * 1024 ^ unitOf n 4
  rw [abs_le]
  constructor
  · linarith only [hup']
  · linarith only [hdown']

theorem lt_of_unit_ne (h : (amountOf n).unit ≠ 4) : n < 1024 ^ (unitOf n 4 + 1) := by
  have hne : unitOf n 4 ≠ 4 := fun heq => h (Fin.ext heq)
  have hle := (unitOf_spec n 4).1
  exact (unitOf_spec n 4).2.2 (by omega)

theorem mantissa_le (h : (amountOf n).unit ≠ 4) : (amountOf n).mantissa ≤ 1024 := by
  have hle : ((amountOf n).tenths : ℚ) ≤ 10240 := by exact_mod_cast tenths_le (lt_of_unit_ne h)
  rw [Amount.mantissa, div_le_iff₀ (by norm_num)]
  linarith only [hle]

theorem mantissa_lt_iff : (amountOf n).mantissa < 1024 ↔ tenths n (unitOf n 4) < 10240 := by
  have hcast : (tenths n (unitOf n 4) : ℚ) < 10240 ↔ tenths n (unitOf n 4) < 10240 := by
    exact_mod_cast Iff.rfl
  rw [Amount.mantissa, div_lt_iff₀ (by norm_num), ← hcast]
  norm_num
  rfl

/-- **The mantissa is out of its range** just below the next unit. -/
theorem not_inRange_iff : ¬ (amountOf n).InRange ↔
    ∃ k ≤ 3, n < 1024 ^ (k + 1) ∧ 20 * 1024 ^ (k + 1) ≤ 20 * n + 1024 ^ k := by
  rw [Amount.InRange, Classical.not_imp, mantissa_lt_iff]
  constructor
  · rintro ⟨hunit, hge⟩
    have hlt := lt_of_unit_ne hunit
    have heq : tenths n (unitOf n 4) = 10240 :=
      Nat.le_antisymm (tenths_le hlt) (Nat.le_of_not_lt hge)
    have hne : unitOf n 4 ≠ 4 := fun heq => hunit (Fin.ext heq)
    have hle := (unitOf_spec n 4).1
    exact ⟨unitOf n 4, by omega, hlt, (tenths_eq_iff hlt).mp heq⟩
  · rintro ⟨k, hk, hlt, hclose⟩
    have hlow : 1024 ^ k ≤ n := by
      rw [pow_succ] at hclose
      omega
    have hunit := unitOf_eq (show k < 4 by omega) hlow hlt
    refine ⟨fun heq => ?_, ?_⟩
    · have hval : unitOf n 4 = 4 := congrArg Fin.val heq
      omega
    · rw [hunit, (tenths_eq_iff hlt).mpr hclose]
      exact Nat.lt_irrefl 10240

end AmountOf

/-- **The text of any count** describes it: a mantissa of at least one and one of five units, exact
in bytes and to half a tenth in all others. It is in normal form, with less than 1024 of each unit
but the largest, for all counts but those just below a power of 1024; there the mantissa is 1024. -/
theorem formatBytes_describes (b : UInt64) : ∃ a : Amount, formatBytes b = a.text ∧
    a.Describes b ∧ (a.unit ≠ 4 → a.mantissa ≤ 1024) ∧ (a.InRange ↔ ¬ JustBelow b) := by
  refine ⟨amountOf (nearestNat b.toNat), (text_amountOf _).symm,
    ⟨one_le_mantissa, fun h => ?_, fun h => ?_⟩, mantissa_le, ?_⟩
  · have hunit := amountOf_unit_eq_zero_iff.mp h
    have hlt := lt_of_unit_ne (n := nearestNat b.toNat) (by rw [h]; decide)
    rw [hunit] at hlt
    rw [mantissa_zero h, nearestNat_of_lt hlt]
  · have hb : b ≠ 0 := by
      rintro rfl
      exact h (by decide)
    obtain ⟨m, e, hparts, hvalue⟩ := Double.exists_parts_nearestNat hb
    refine ⟨m, e, hparts, ?_⟩
    rw [hvalue]
    exact mantissa_near _
  · rw [JustBelow, ← not_inRange_iff, not_not]

/-- **The last count of kilobytes** is written as 1024 of them, and no text in normal form is the
same. -/
theorem formatBytes_below_megabyte : formatBytes 1048575 = "1024.0K" ∧
    ¬ ∃ a : Amount, formatBytes 1048575 = a.text ∧ a.Describes 1048575 ∧ a.InRange := by
  have htext : formatBytes 1048575 = "1024.0K" := by decide
  have hsame : "1024.0K" = (⟨10240, 1, by decide⟩ : Amount).text := by decide
  refine ⟨htext, ?_⟩
  rintro ⟨a, ha, -, hrange⟩
  obtain rfl := Amount.text_inj ((hsame.symm.trans htext.symm).trans ha)
  have hlt : (10240 / 10 : ℚ) < 1024 := hrange (by decide)
  norm_num at hlt

end GaleraHealth.Summary
