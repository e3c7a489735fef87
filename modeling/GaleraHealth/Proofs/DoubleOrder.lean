import Mathlib
import GaleraHealth.Decimal.Binary

/-!
# The order of doubles

Doubles are compared by kind and sign first, then by exponent, then by significand. That is a
lexicographic order of integers, so comparisons of doubles chain like those of integers, as long as
no NaN is among them.

* `rank?`, `compare_eq`: the place of a double among the others, by three integers.
* `lt_iff`, `le_iff`: comparisons of doubles as comparisons of ranks.
* `lt_of_le_of_lt`, `not_lt_of_le`: the laws of an order that hold with a NaN, too.
* `Parts`: a positive double of full precision, taken apart into significand and exponent.
-/

namespace GaleraHealth.Double

open Float.Model (Format UnpackedFloat)
open Float.Model.UnpackedFloat

/-! ### Ranks -/

/-- Where an unpacked double stands among all others. A NaN stands nowhere. -/
def rank? : UnpackedFloat → Option (ℤ ×ₗ ℤ ×ₗ ℤ)
  | .notANumber => none
  | .infinity .negative => some (toLex (-2, toLex (0, 0)))
  | .finite .negative m e _ => some (toLex (-1, toLex (-e, -(m : ℤ))))
  | .zero _ => some (toLex (0, toLex (0, 0)))
  | .finite .positive m e _ => some (toLex (1, toLex (e, (m : ℤ))))
  | .infinity .positive => some (toLex (2, toLex (0, 0)))

theorem compare_lex (k e e' m m' : ℤ) :
    compare (toLex (k, toLex (e, m)) : ℤ ×ₗ ℤ ×ₗ ℤ) (toLex (k, toLex (e', m'))) =
      (compare e e').then (compare m m') := by
  show (compare k k).then _ = _
  rw [compare_eq_iff_eq.mpr rfl]
  rfl

theorem compare_neg (a b : ℤ) : compare (-a) (-b) = (compare a b).swap := by
  rw [Int.compare_swap]
  rcases lt_trichotomy a b with h | h | h
  · rw [Int.compare_eq_gt.mpr (by omega), Int.compare_eq_gt.mpr h]
  · rw [h, Int.compare_eq_eq.mpr rfl, Int.compare_eq_eq.mpr rfl]
  · rw [Int.compare_eq_lt.mpr (by omega), Int.compare_eq_lt.mpr h]

theorem compare_natCast (m n : ℕ) : compare (m : ℤ) (n : ℤ) = compare m n := by
  rcases lt_trichotomy m n with h | h | h
  · rw [Int.compare_eq_lt.mpr (by omega), Nat.compare_eq_lt.mpr h]
  · rw [Int.compare_eq_eq.mpr (by omega), Nat.compare_eq_eq.mpr h]
  · rw [Int.compare_eq_gt.mpr (by omega), Nat.compare_eq_gt.mpr h]

/-- Doubles are compared by their ranks. -/
theorem compare_eq (a b : UnpackedFloat) :
    a.compare b = (rank? a).bind fun r => (rank? b).map fun s => compare r s := by
  cases a with
  | notANumber => rfl
  | infinity s =>
    cases b with
    | notANumber => cases s <;> rfl
    | infinity t => cases s <;> cases t <;> rfl
    | zero t => cases s <;> rfl
    | finite t n f _ => cases s <;> cases t <;> rfl
  | zero s =>
    cases b with
    | notANumber => rfl
    | infinity t => cases t <;> rfl
    | zero t => rfl
    | finite t n f _ => cases t <;> rfl
  | finite s m e _ =>
    cases b with
    | notANumber => cases s <;> rfl
    | infinity t => cases s <;> cases t <;> rfl
    | zero t => cases s <;> rfl
    | finite t n f _ =>
      -- only two doubles of one sign are compared by more than their signs
      cases s with
      | positive =>
        cases t with
        | negative => rfl
        | positive =>
          show some _ = some (compare _ _)
          rw [compare_lex, compare_natCast]
      | negative =>
        cases t with
        | positive => rfl
        | negative =>
          show some _ = some (compare _ _)
          rw [compare_lex, compare_neg, compare_neg, compare_natCast, Ordering.swap_then]

/-- The rank of a double. -/
def rank (x : Float) : Option (ℤ ×ₗ ℤ ×ₗ ℤ) := rank? x.toModel.unpack

theorem rank_zero : rank 0.0 = some (toLex (0, toLex (0, 0))) := by
  decide

/-! ### Comparisons -/

section Comparisons

variable {x y z : Float} {r s : ℤ ×ₗ ℤ ×ₗ ℤ}

theorem lt_iff : x < y ↔ ∃ r s, rank x = some r ∧ rank y = some s ∧ r < s := by
  have hlt : x < y ↔ x.toModel.unpack.compare y.toModel.unpack = some .lt := by
    show decide ((x.toModel.unpack.compare y.toModel.unpack == some .lt) = true) = true ↔ _
    rw [decide_eq_true_eq, beq_iff_eq]
  rw [hlt, compare_eq]
  simp only [Option.bind_eq_some_iff, Option.map_eq_some_iff, compare_lt_iff_lt, rank,
    exists_and_left]

theorem le_iff : x ≤ y ↔ ∃ r s, rank x = some r ∧ rank y = some s ∧ r ≤ s := by
  have hle : x ≤ y ↔ ∃ o, x.toModel.unpack.compare y.toModel.unpack = some o ∧
      o.isLE = true := by
    show decide ((x.toModel.unpack.compare y.toModel.unpack).any (·.isLE) = true) = true ↔ _
    rw [decide_eq_true_eq, Option.any_eq_true]
  rw [hle, compare_eq]
  simp only [Option.bind_eq_some_iff, Option.map_eq_some_iff, rank]
  constructor
  · rintro ⟨o, ⟨r, hr, s, hs, rfl⟩, ho⟩
    exact ⟨r, s, hr, hs, compare_le_iff_le.mp (Ordering.ne_gt_iff_isLE.mpr ho)⟩
  · rintro ⟨r, s, hr, hs, h⟩
    exact ⟨_, ⟨r, hr, s, hs, rfl⟩, Ordering.ne_gt_iff_isLE.mp (compare_le_iff_le.mpr h)⟩

theorem lt_iff_of_rank (hx : rank x = some r) (hy : rank y = some s) : x < y ↔ r < s := by
  rw [lt_iff, hx, hy]
  simp

theorem le_iff_of_rank (hx : rank x = some r) (hy : rank y = some s) : x ≤ y ↔ r ≤ s := by
  rw [le_iff, hx, hy]
  simp

theorem lt_of_le_of_lt (hxy : x ≤ y) (hyz : y < z) : x < z := by
  obtain ⟨r, s, hr, hs, hrs⟩ := le_iff.mp hxy
  obtain ⟨s', u, hs', hu, hsu⟩ := lt_iff.mp hyz
  obtain rfl := Option.some.inj (hs.symm.trans hs')
  exact (lt_iff_of_rank hr hu).mpr (hrs.trans_lt hsu)

theorem not_lt_of_le (h : x ≤ y) : ¬ y < x := by
  obtain ⟨r, s, hr, hs, hrs⟩ := le_iff.mp h
  rw [lt_iff_of_rank hs hr]
  exact hrs.not_gt

theorem le_of_lt (h : x < y) : x ≤ y := by
  obtain ⟨r, s, hr, hs, hrs⟩ := lt_iff.mp h
  exact (le_iff_of_rank hr hs).mpr hrs.le

theorem zero_le_zero : (0.0 : Float) ≤ 0.0 := (le_iff_of_rank rank_zero rank_zero).mpr le_rfl

end Comparisons

/-! ### Significand and exponent -/

theorem pack_normal {m k : ℕ} (hlog : m.log2 = 52) (hk : k < 2047) (h : 0 < m) :
    UnpackedFloat.pack .binary64 (.finite .positive m ((k : ℤ) - 1075) h) =
      packComponents .binary64 .positive (BitVec.ofNat _ k) (BitVec.ofNat _ m) := by
  have hbiased : ((k : ℤ) - 1075 + Format.binary64.exponentBias +
      Format.binary64.mantissaBitsWithoutImplicit).toNat = k := by
    show ((k : ℤ) - 1075 + (1023 : ℕ) + (52 : ℕ)).toNat = k
    omega
  rw [UnpackedFloat.pack]
  dsimp only
  rw [hbiased, hlog, if_neg, if_pos]
  · rfl
  · show ¬ 2048 ≤ k + 1
    omega

/-- A significand of 53 digits and its exponent are read back from the bits of a double. -/
theorem unpack_pack {m : ℕ} {e : ℤ} (hlow : 2 ^ 52 ≤ m) (hhigh : m < 2 ^ 53) (he : -1074 ≤ e)
    (he' : e ≤ 971) (h : 0 < m) :
    (Float.Model.pack (.finite .positive m e h)).unpack = .finite .positive m e h := by
  have hlog : m.log2 = 52 := (Nat.log2_eq_iff (by omega)).mpr ⟨hlow, hhigh⟩
  obtain ⟨k, rfl⟩ : ∃ k : ℕ, e = (k : ℤ) - 1075 := ⟨(e + 1075).toNat, by omega⟩
  have hword : (BitVec.ofNat 11 k).toNat = k := by
    rw [BitVec.toNat_ofNat]
    omega
  have hones : BitVec.ofNat 11 k ≠ -1#11 := by
    intro heq
    have hnat : k = 2047 := hword.symm.trans (congrArg BitVec.toNat heq)
    omega
  have hzeros : BitVec.ofNat 11 k ≠ 0#11 := by
    intro heq
    have hnat : k = 0 := hword.symm.trans (congrArg BitVec.toNat heq)
    omega
  show UnpackedFloat.unpack .binary64 (UnpackedFloat.pack .binary64 _) = _
  rw [pack_normal hlog (by omega), UnpackedFloat.unpack]
  simp only [unpackMantissa_packComponents, unpackExponent_packComponents,
    unpackSign_packComponents]
  rw [if_neg hones, if_neg hzeros, UnpackedFloat.finite.injEq]
  refine ⟨rfl, ?_, ?_⟩
  · -- the leading digit is not stored
    show (1#1 ++ BitVec.ofNat 52 m).toNat = m
    rw [BitVec.toNat_append, BitVec.toNat_ofNat, BitVec.toNat_ofNat,
      ← Nat.shiftLeft_add_eq_or_of_lt (Nat.mod_lt _ (by decide))]
    omega
  · show (((BitVec.ofNat 11 k).toNat : ℤ)) - (1023 + 52) = _
    rw [hword]
    omega

/-- A double is `m · 2^e`, with a significand of exactly 53 binary digits. -/
structure Parts (x : Float) (m : ℕ) (e : ℤ) : Prop where
  pos : 0 < m
  packed : x = ⟨Float.Model.pack (.finite .positive m e pos)⟩
  low : 2 ^ 52 ≤ m
  high : m < 2 ^ 53
  least : -1074 ≤ e
  most : e ≤ 971

namespace Parts

variable {x y : Float} {m n : ℕ} {e f : ℤ}

theorem log2_eq (h : Parts x m e) : m.log2 = 52 :=
  (Nat.log2_eq_iff h.pos.ne').mpr ⟨h.low, h.high⟩

theorem unpack (h : Parts x m e) : x.toModel.unpack = .finite .positive m e h.pos :=
  (congrArg (fun y => y.toModel.unpack) h.packed).trans
    (unpack_pack h.low h.high h.least h.most h.pos)

theorem rank_eq (h : Parts x m e) : rank x = some (toLex (1, toLex (e, (m : ℤ)))) := by
  rw [rank, h.unpack, rank?]

theorem zero_lt (h : Parts x m e) : 0.0 < x := by
  rw [lt_iff_of_rank rank_zero h.rank_eq, Prod.Lex.toLex_lt_toLex]
  exact .inl Int.zero_lt_one

/-- Exponent and significand make one number, by which doubles of full precision are ordered. -/
theorem le_iff (hx : Parts x m e) (hy : Parts y n f) :
    x ≤ y ↔ e * 2 ^ 52 + m ≤ f * 2 ^ 52 + n := by
  have hm := hx.low
  have hm' := hx.high
  have hn := hy.low
  have hn' := hy.high
  rw [le_iff_of_rank hx.rank_eq hy.rank_eq]
  simp only [Prod.Lex.toLex_le_toLex, lt_irrefl, false_or, true_and]
  omega

end Parts

end GaleraHealth.Double
