import Mathlib.Data.Char
import Mathlib.Data.List.Induction
import GaleraHealth.Decimal.Reading

/-!
# Numbers as they are written

A reader of numbers walks along a row of characters and gives up at the first that is no digit. What
it accepts is said here without the walk:

* `IsNatural`, `IsUnsigned`, `IsSigned`: a row of characters is written for a number, without a
  sign, with an optional plus, and with an optional sign of either kind.
* `natural?_eq_some_iff`, `unsignedUpTo?_eq_some_iff`, `signedIn?_eq_some_iff`: a reader accepts
  exactly what is written for a number within its bounds.
* `natural?_toDigits`: the digits of a number are read as that number.
* `IsNatural.eq_toDigits`: without a zero in front, only its digits are written for a number.
-/

namespace GaleraHealth.Decimal

/-- A nonempty row of decimal digits is written for the number that they make. Zeros in front do
not matter. -/
structure IsNatural (cs : List Char) (n : Nat) : Prop where
  nonempty : cs ≠ []
  digits : ∀ c ∈ cs, c.isDigit = true
  value : Nat.ofDigitChars 10 cs 0 = n

/-- Digits after an optional plus. -/
inductive IsUnsigned : List Char → Nat → Prop
  | plain {cs : List Char} {n : Nat} : IsNatural cs n → IsUnsigned cs n
  | plus {cs : List Char} {n : Nat} : IsNatural cs n → IsUnsigned ('+' :: cs) n

/-- Digits after an optional sign. -/
inductive IsSigned : List Char → Int → Prop
  | unsigned {cs : List Char} {n : Nat} : IsUnsigned cs n → IsSigned cs n
  | minus {cs : List Char} {n : Nat} : IsNatural cs n → IsSigned ('-' :: cs) (-n)

/-! ### Digits -/

theorem digitValue?_ten (c : Char) :
    digitValue? 10 c = if c.isDigit = true then some (c.toNat - 48) else none := by
  have hdigit : c.isDigit = true ↔ '0' ≤ c ∧ c ≤ '9' := by
    rw [Char.isDigit, Bool.and_eq_true, decide_eq_true_eq, decide_eq_true_eq]
    rfl
  unfold digitValue?
  by_cases h : '0' ≤ c ∧ c ≤ '9'
  · have hle : c.toNat ≤ 57 := h.2
    rw [if_pos h, if_pos (hdigit.mpr h), Option.filter_some_pos]
    rw [decide_eq_true_eq]
    omega
  · rw [if_neg h, if_neg (mt hdigit.mp h)]
    -- the letters of larger bases have values from ten on
    by_cases hsmall : 'a' ≤ c ∧ c ≤ 'f'
    · have hle : 97 ≤ c.toNat := hsmall.1
      rw [if_pos hsmall, Option.filter_some_neg]
      rw [decide_eq_false_iff_not]
      omega
    · rw [if_neg hsmall]
      by_cases hcapital : 'A' ≤ c ∧ c ≤ 'F'
      · have hle : 65 ≤ c.toNat := hcapital.1
        rw [if_pos hcapital, Option.filter_some_neg]
        rw [decide_eq_false_iff_not]
        omega
      · rw [if_neg hcapital, Option.filter_none]

/-- A decimal digit is a digit of every larger base. -/
theorem digitValue?_isSome_of_isDigit {base : Nat} (hbase : 10 ≤ base) {c : Char}
    (h : c.isDigit = true) : (digitValue? base c).isSome = true := by
  have hten := digitValue?_ten c
  rw [if_pos h] at hten
  unfold digitValue? at hten ⊢
  obtain ⟨hvalue, hlt⟩ := Option.filter_eq_some_iff.mp hten
  rw [hvalue, Option.filter_some_pos]
  · rfl
  · rw [decide_eq_true_eq] at hlt ⊢
    omega

/-- One more digit of a number that is read from the left. -/
def addDigit (base : Nat) (acc : Option Nat) (c : Char) : Option Nat :=
  acc.bind fun n => (digitValue? base c).map (n * base + ·)

theorem foldl_addDigit_none (base : Nat) (cs : List Char) :
    cs.foldl (addDigit base) none = none := by
  induction cs with
  | nil => rfl
  | cons c cs ih => exact ih

theorem naturalInBase?_cons (base : Nat) (c : Char) (cs : List Char) :
    naturalInBase? base (c :: cs) = (c :: cs).foldl (addDigit base) (some 0) := rfl

/-- A number is read from characters that are digits of the base. -/
theorem digitValue?_isSome {base n : Nat} {cs : List Char} (h : naturalInBase? base cs = some n) :
    ∀ c ∈ cs, (digitValue? base c).isSome = true := by
  have hwalk : ∀ (cs : List Char) (acc : Nat), cs.foldl (addDigit base) (some acc) = some n →
      ∀ c ∈ cs, (digitValue? base c).isSome = true := by
    intro cs
    induction cs with
    | nil => intro acc _ c hc; cases hc
    | cons d cs ih =>
      intro acc h c hc
      have hstep : addDigit base (some acc) d = (digitValue? base d).map (acc * base + ·) := rfl
      rw [List.foldl_cons, hstep] at h
      cases hd : digitValue? base d with
      | none =>
        rw [hd, Option.map_none, foldl_addDigit_none] at h
        cases h
      | some v =>
        rw [hd, Option.map_some] at h
        rcases List.mem_cons.mp hc with rfl | hc
        · rw [hd]
          rfl
        · exact ih _ h c hc
  cases cs with
  | nil => cases h
  | cons d cs => exact hwalk _ 0 h

/-- **The walk along the digits**, from the number that has been read so far. -/
theorem foldl_addDigit_some (cs : List Char) (acc : Nat) : cs.foldl (addDigit 10) (some acc) =
    if cs.all Char.isDigit = true then some (Nat.ofDigitChars 10 cs acc) else none := by
  induction cs generalizing acc with
  | nil => rfl
  | cons c cs ih =>
    rw [List.foldl_cons, List.all_cons, Nat.ofDigitChars_cons]
    have hstep : addDigit 10 (some acc) c = (digitValue? 10 c).map (acc * 10 + ·) := rfl
    rw [hstep, digitValue?_ten]
    cases hc : c.isDigit with
    | true =>
      rw [if_pos rfl, Option.map_some, ih, Bool.true_and, Nat.mul_comm acc 10]
      rfl
    | false =>
      rw [if_neg Bool.false_ne_true, Option.map_none, foldl_addDigit_none, Bool.false_and,
        if_neg Bool.false_ne_true]

/-- Digits are read as the number that they are written for, and nothing else is. -/
theorem natural?_eq_some_iff {cs : List Char} {n : Nat} :
    natural? cs = some n ↔ IsNatural cs n := by
  cases cs with
  | nil =>
    constructor
    · intro h
      cases h
    · intro h
      exact absurd rfl h.nonempty
  | cons c cs =>
    rw [natural?, naturalInBase?_cons, foldl_addDigit_some]
    simp only [Option.ite_none_right_eq_some, Option.some.injEq, List.all_eq_true]
    constructor
    · rintro ⟨hdigits, hvalue⟩
      exact ⟨List.cons_ne_nil c cs, hdigits, hvalue⟩
    · intro h
      exact ⟨h.digits, h.value⟩

theorem IsNatural.toDigits (n : Nat) : IsNatural (Nat.toDigits 10 n) n where
  nonempty := List.ne_nil_of_length_pos Nat.length_toDigits_pos
  digits _ hc := Nat.isDigit_of_mem_toDigits (by decide) (by decide) hc
  value := Nat.ofDigitChars_toDigits (by decide) (by decide)

/-- **The digits of a number are read as that number.** -/
theorem natural?_toDigits (n : Nat) : natural? (Nat.toDigits 10 n) = some n :=
  natural?_eq_some_iff.mpr (.toDigits n)

/-- A digit is the one that is written for its value. -/
theorem digitChar_of_isDigit {c : Char} (h : c.isDigit = true) :
    c.toNat - 48 < 10 ∧ (c.toNat - 48).digitChar = c := by
  have hdigits : ∀ k < 10, Char.ofNat (k + 48) = Nat.digitChar k := by decide
  have hdigit : '0' ≤ c ∧ c ≤ '9' := by
    rw [Char.isDigit, Bool.and_eq_true, decide_eq_true_eq, decide_eq_true_eq] at h
    exact h
  have hlow : 48 ≤ c.toNat := hdigit.1
  have hhigh : c.toNat ≤ 57 := hdigit.2
  have hlt : c.toNat - 48 < 10 := by omega
  refine ⟨hlt, ?_⟩
  rw [← hdigits _ hlt, Nat.sub_add_cancel hlow, Char.ofNat_toNat]

/-- **Without a superfluous zero in front, a number is written in one way.** -/
theorem IsNatural.eq_toDigits {cs : List Char} {n : Nat} (h : IsNatural cs n)
    (hzero : 1 < cs.length → cs.head? ≠ some '0') : cs = Nat.toDigits 10 n := by
  obtain ⟨hne, hdigits, rfl⟩ := h
  induction cs using List.reverseRecOn with
  | nil => exact absurd rfl hne
  | append_singleton front c ih =>
    obtain ⟨hlt, hc⟩ := digitChar_of_isDigit (hdigits c (by simp))
    have hvalue : Nat.ofDigitChars 10 (front ++ [c]) 0 =
        10 * Nat.ofDigitChars 10 front 0 + (c.toNat - 48) := Nat.ofDigitChars_append 0
    rw [hvalue]
    cases front with
    | nil =>
      show [c] = Nat.toDigits 10 (10 * 0 + (c.toNat - 48))
      rw [Nat.mul_zero, Nat.zero_add, Nat.toDigits_of_lt_base hlt, hc]
    | cons d front =>
      have hd : d ≠ '0' := by
        intro hd
        exact hzero (by simp) (by rw [hd]; rfl)
      have hfront : d :: front = Nat.toDigits 10 (Nat.ofDigitChars 10 (d :: front) 0) := by
        refine ih ?_ (List.cons_ne_nil d front) ?_
        · intro _ hhead
          exact hd (Option.some.inj hhead)
        · intro x hx
          exact hdigits x (List.mem_append_left _ hx)
      -- what stands before the last digit is not zero, or its first digit would be a zero
      have hpos : 0 < Nat.ofDigitChars 10 (d :: front) 0 := by
        rw [Nat.pos_iff_ne_zero]
        intro hvalue
        rw [hvalue, Nat.toDigits_zero] at hfront
        exact hd (List.head_eq_of_cons_eq hfront)
      rw [← Nat.toDigits_append_toDigits (by decide) hpos hlt, ← hfront,
        Nat.toDigits_of_lt_base hlt, hc]

/-- Only zero begins with a zero. -/
theorem head?_toDigits_of_pos {n : Nat} (h : 0 < n) : (Nat.toDigits 10 n).head? ≠ some '0' := by
  induction n using Nat.strongRecOn with
  | _ n ih =>
    rw [Nat.toDigits_eq_if (by decide)]
    by_cases hlt : n < 10
    · have hdigits : ∀ k < 10, 0 < k → [k.digitChar].head? ≠ some '0' := by decide
      rw [if_pos hlt]
      exact hdigits n hlt h
    · have hpos : 0 < n / 10 := Nat.div_pos (Nat.le_of_not_lt hlt) (by decide)
      have hfront := ih _ (Nat.div_lt_self h (by decide)) hpos
      rw [if_neg hlt]
      cases hdigits : Nat.toDigits 10 (n / 10) with
      | nil => exact absurd hdigits (IsNatural.toDigits _).nonempty
      | cons d ds =>
        rw [hdigits] at hfront
        exact hfront

/-- A number is written without a superfluous zero in front. -/
theorem head?_toDigits (n : Nat) (h : 1 < (Nat.toDigits 10 n).length) :
    (Nat.toDigits 10 n).head? ≠ some '0' := by
  apply head?_toDigits_of_pos
  rw [Nat.pos_iff_ne_zero]
  rintro rfl
  rw [Nat.toDigits_zero] at h
  exact Nat.lt_irrefl 1 h

/-- Digits do not begin with a sign. -/
theorem IsNatural.not_sign {c : Char} {cs : List Char} {n : Nat} (h : IsNatural (c :: cs) n)
    (hc : c.isDigit = false) : False := by
  have hdigit := h.digits c List.mem_cons_self
  rw [hc] at hdigit
  cases hdigit

/-! ### Signs -/

/-- **Unsigned numbers**: digits after an optional plus, up to a bound. -/
theorem unsignedUpTo?_eq_some_iff {high n : Nat} {cs : List Char} :
    unsignedUpTo? high cs = some n ↔ IsUnsigned cs n ∧ n ≤ high := by
  unfold unsignedUpTo?
  simp only [Option.filter_eq_some_iff, natural?_eq_some_iff, decide_eq_true_eq,
    and_congr_left_iff]
  intro hbound
  split
  · constructor
    · exact .plus
    · intro h
      cases h with
      | plain h => exact (h.not_sign rfl).elim
      | plus h => exact h
  · rename_i hplus
    constructor
    · exact .plain
    · intro h
      cases h with
      | plain h => exact h
      | plus h => exact absurd rfl (hplus _)

/-- **Signed numbers**: digits after an optional sign, between two bounds. -/
theorem signedIn?_eq_some_iff {low high z : Int} {cs : List Char} :
    signedIn? low high cs = some z ↔ IsSigned cs z ∧ low ≤ z ∧ z ≤ high := by
  unfold signedIn?
  simp only [Option.filter_eq_some_iff, decide_eq_true_eq, and_congr_left_iff]
  intro hbounds
  split
  · simp only [Option.map_eq_some_iff, natural?_eq_some_iff]
    constructor
    · rintro ⟨n, h, rfl⟩
      exact .unsigned (.plus h)
    · intro h
      cases h with
      | unsigned h =>
        cases h with
        | plain h => exact (h.not_sign rfl).elim
        | plus h => exact ⟨_, h, rfl⟩
  · simp only [Option.map_eq_some_iff, natural?_eq_some_iff]
    constructor
    · rintro ⟨n, h, rfl⟩
      exact .minus h
    · intro h
      cases h with
      | unsigned h =>
        cases h with
        | plain h => exact (h.not_sign rfl).elim
      | minus h => exact ⟨_, h, rfl⟩
  · rename_i hplus hminus
    simp only [Option.map_eq_some_iff, natural?_eq_some_iff]
    constructor
    · rintro ⟨n, h, rfl⟩
      exact .unsigned (.plain h)
    · intro h
      cases h with
      | unsigned h =>
        cases h with
        | plain h => exact ⟨_, h, rfl⟩
        | plus h => exact absurd rfl (hplus _)
      | minus h => exact absurd rfl (hminus _)

/-- A number has no blank in it, nor any other character that is neither a digit nor a sign. -/
theorem IsUnsigned.isDigit_or_sign {cs : List Char} {n : Nat} (h : IsUnsigned cs n) :
    ∀ c ∈ cs, c.isDigit = true ∨ c = '+' ∨ c = '-' := by
  cases h with
  | plain h => exact fun c hc => .inl (h.digits c hc)
  | plus h => exact List.forall_mem_cons.mpr ⟨.inr (.inl rfl), fun c hc => .inl (h.digits c hc)⟩

theorem IsSigned.isDigit_or_sign {cs : List Char} {z : Int} (h : IsSigned cs z) :
    ∀ c ∈ cs, c.isDigit = true ∨ c = '+' ∨ c = '-' := by
  cases h with
  | unsigned h => exact h.isDigit_or_sign
  | minus h => exact List.forall_mem_cons.mpr ⟨.inr (.inr rfl), fun c hc => .inl (h.digits c hc)⟩

end GaleraHealth.Decimal
