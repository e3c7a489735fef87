import GaleraHealth.Decimal.Binary
import GaleraHealth.Json.Reader
import GaleraHealth.Proofs.EncodedText
import GaleraHealth.Proofs.Numerals
import GaleraHealth.Proofs.TrimmedText

/-!
# Texts of whole numbers

The reader of JSON takes most numbers for floats. The texts that it reads as a whole number are
those in which the number is written in decimal, without a superfluous zero, a fraction or an
exponent, and fits a 64-bit word. For each part of a number there is a lemma for what is accepted
and one for what is refused, or one for both.

* `digits_eq_iff`: a row of digits ends where no digit follows.
* `exists_ofNat_of_unsigned?`, `unsigned?_natText`: without fraction and exponent, exactly the
  decimal text of a natural number is read.
* `number?_int_iff`: the sign and the bounds. A negative zero is a float.
* `ofBytes?_eq_int_iff`, `wholeOfBytes?_eq_int_iff`: nothing but white space stands around the
  number.
-/

namespace GaleraHealth.Json

namespace Reader

/-! ### Digits -/

/-- A decimal digit is one byte, and as a character it is a digit again. -/
theorem charOfByte_digit {b : UInt8} (h : isDigit b = true) :
    (charOfByte b).isDigit = true ∧ String.utf8EncodeChar (charOfByte b) = [b] := by
  have hall : ∀ k < 10, (Char.ofNat (k + 48)).isDigit = true ∧
      String.utf8EncodeChar (Char.ofNat (k + 48)) = [UInt8.ofNat (k + 48)] := by decide
  rw [isDigit, Bool.and_eq_true, decide_eq_true_eq, decide_eq_true_eq] at h
  have hlow : 48 ≤ b.toNat := h.1
  have hhigh : b.toNat ≤ 57 := h.2
  have hb := hall (b.toNat - 48) (by omega)
  rwa [Nat.sub_add_cancel hlow, UInt8.ofNat_toNat] at hb

/-- A digit of a text is a byte that is read as it. -/
theorem exists_byte_of_isDigit {c : Char} (h : c.isDigit = true) :
    ∃ b, isDigit b = true ∧ charOfByte b = c ∧ String.utf8EncodeChar c = [b] := by
  have hall : ∀ k < 10, isDigit (UInt8.ofNat (k + 48)) = true ∧
      charOfByte (UInt8.ofNat (k + 48)) = Nat.digitChar k ∧
      String.utf8EncodeChar (Nat.digitChar k) = [UInt8.ofNat (k + 48)] := by decide
  obtain ⟨hlt, hc⟩ := Decimal.digitChar_of_isDigit h
  have hbyte := hall _ hlt
  rw [hc] at hbyte
  exact ⟨_, hbyte⟩

theorem ascii_ofList (cs : List Char) :
    ascii (String.ofList cs) = cs.flatMap String.utf8EncodeChar := by
  rw [ascii, Text.toUTF8_toList_eq, String.toList_ofList]

/-- The bytes of a row of digits. -/
theorem digitBytes {cs : List Char} (h : ∀ c ∈ cs, c.isDigit = true) :
    (∀ b ∈ ascii (String.ofList cs), isDigit b = true) ∧
      (ascii (String.ofList cs)).map charOfByte = cs := by
  rw [ascii_ofList]
  induction cs with
  | nil => exact ⟨List.forall_mem_nil _, rfl⟩
  | cons c cs ih =>
    obtain ⟨b, hb, hc, hbyte⟩ := exists_byte_of_isDigit (h c List.mem_cons_self)
    obtain ⟨hdigits, hchars⟩ := ih fun d hd => h d (List.mem_cons_of_mem c hd)
    rw [List.flatMap_cons, hbyte, List.singleton_append, List.map_cons, hc, hchars]
    exact ⟨List.forall_mem_cons.mpr ⟨hb, hdigits⟩, rfl⟩

theorem ascii_charsOfBytes {bs : List UInt8} (h : ∀ b ∈ bs, isDigit b = true) :
    ascii (String.ofList (bs.map charOfByte)) = bs := by
  rw [ascii_ofList]
  induction bs with
  | nil => rfl
  | cons b bs ih =>
    rw [List.map_cons, List.flatMap_cons, (charOfByte_digit (h b List.mem_cons_self)).2,
      ih fun d hd => h d (List.mem_cons_of_mem b hd), List.singleton_append]

/-- **A row of digits** ends where no digit follows. -/
theorem digits_eq_iff {bs rest : List UInt8} {cs : List Char} :
    digits bs = (cs, rest) ↔ (∀ c ∈ cs, c.isDigit = true) ∧
      bs = ascii (String.ofList cs) ++ rest ∧ ∀ b, rest.head? = some b → isDigit b = false := by
  rw [digits, Prod.mk.injEq]
  constructor
  · rintro ⟨rfl, rfl⟩
    have hfront : ∀ b ∈ bs.takeWhile isDigit, isDigit b = true :=
      fun b hb => List.mem_takeWhile_imp hb
    refine ⟨?_, ?_, ?_⟩
    · intro c hc
      obtain ⟨b, hb, rfl⟩ := List.mem_map.mp hc
      exact (charOfByte_digit (hfront b hb)).1
    · rw [ascii_charsOfBytes hfront, List.takeWhile_append_dropWhile]
    · intro b hb
      have hstop := List.head?_dropWhile_not isDigit bs
      rw [hb] at hstop
      exact hstop
  · rintro ⟨hdigits, rfl, hstop⟩
    obtain ⟨hbytes, hchars⟩ := digitBytes hdigits
    obtain ⟨htake, hdrop⟩ := Text.takeWhile_append_stop hbytes hstop
    rw [htake, hdrop, hchars]
    exact ⟨rfl, rfl⟩

/-! ### Numbers without a sign -/

/-- A byte with which a whole number that stands before it would go on. -/
def continuesNumber (b : UInt8) : Bool :=
  isDigit b || b == 0x2E || b == 0x65 || b == 0x45

/-- A text in front of which a whole number may end. -/
def EndsNumber (rest : List UInt8) : Prop := ∀ b, rest.head? = some b → continuesNumber b = false

theorem endsNumber_iff {rest : List UInt8} : EndsNumber rest ↔
    (∀ b, rest.head? = some b → isDigit b = false) ∧ rest.head? ≠ some 0x2E ∧
      rest.head? ≠ some 0x65 ∧ rest.head? ≠ some 0x45 := by
  cases rest with
  | nil => simp [EndsNumber]
  | cons b rest => simp [EndsNumber, continuesNumber, and_assoc]

theorem exponent?_eq_none_iff {bs rest : List UInt8} : exponent? bs = some (none, rest) ↔
    bs = rest ∧ rest.head? ≠ some 0x65 ∧ rest.head? ≠ some 0x45 := by
  cases bs with
  | nil =>
    rw [exponent?, Option.some.injEq, Prod.mk.injEq, eq_self_iff_true, true_and]
    constructor
    · rintro rfl
      exact ⟨rfl, nofun, nofun⟩
    · exact And.left
  | cons b bs =>
    unfold exponent?
    dsimp only
    by_cases hb : b = 0x65 ∨ b = 0x45
    · rw [if_pos hb]
      constructor
      · intro h
        -- an exponent that is begun is read as one
        split at h
        all_goals
          obtain ⟨-, h⟩ := Option.ite_none_left_eq_some.mp h
          cases h
      · rintro ⟨rfl, hsmall, hlarge⟩
        rcases hb with rfl | rfl
        · exact absurd rfl hsmall
        · exact absurd rfl hlarge
    · rw [if_neg hb, Option.some.injEq, Prod.mk.injEq, eq_self_iff_true, true_and]
      constructor
      · rintro rfl
        refine ⟨rfl, ?_, ?_⟩
        · intro h
          exact hb (.inl (Option.some.inj h))
        · intro h
          exact hb (.inr (Option.some.inj h))
      · exact And.left

/-- The text of a natural number after a sign. -/
def NumberText.ofNat (negative : Bool) (n : Nat) : NumberText :=
  ⟨negative, Nat.toDigits 10 n, none, none⟩

/-- What is read without fraction and exponent is written for a natural number. -/
theorem exists_ofNat_of_unsigned? {negative : Bool} {bs rest : List UInt8} {t : NumberText}
    (h : unsigned? negative bs = some (t, rest)) (hfraction : t.fraction = none)
    (hexponent : t.exponent = none) : ∃ n, t = .ofNat negative n ∧
      bs = ascii (Decimal.natText n) ++ rest ∧ EndsNumber rest := by
  obtain ⟨⟨cs, r⟩, hcs⟩ : ∃ p, digits bs = p := ⟨_, rfl⟩
  obtain ⟨hdigits, hbs, hstop⟩ := digits_eq_iff.mp hcs
  rw [unsigned?, hcs] at h
  dsimp only at h
  split at h
  · cases h
  · rename_i hempty
    split at h
    · cases h
    · rename_i hzero
      split at h
      · -- a point has a fraction behind it
        split at h
        · cases h
        · obtain ⟨⟨e, r'⟩, he, h⟩ := Option.bind_eq_some_iff.mp h
          cases h
          cases hfraction
      · rename_i hpoint
        obtain ⟨⟨e, r'⟩, he, h⟩ := Option.bind_eq_some_iff.mp h
        cases h
        obtain rfl : e = none := hexponent
        obtain ⟨rfl, hsmall, hlarge⟩ := exponent?_eq_none_iff.mp he
        have hnatural : Decimal.IsNatural cs (Nat.ofDigitChars 10 cs 0) :=
          ⟨mt List.isEmpty_iff.mpr hempty, hdigits, rfl⟩
        have hcanonical := hnatural.eq_toDigits fun hlength hhead => hzero ⟨hlength, hhead⟩
        refine ⟨Nat.ofDigitChars 10 cs 0, ?_, ?_, endsNumber_iff.mpr ⟨hstop, ?_, hsmall, hlarge⟩⟩
        · rw [NumberText.ofNat, ← hcanonical]
        · rw [Decimal.natText, ← hcanonical]
          exact hbs
        · intro hhead
          cases r with
          | nil => cases hhead
          | cons b r => exact hpoint r (by rw [Option.some.inj hhead])

theorem unsigned?_natText (negative : Bool) (n : Nat) {rest : List UInt8} (h : EndsNumber rest) :
    unsigned? negative (ascii (Decimal.natText n) ++ rest) = some (.ofNat negative n, rest) := by
  obtain ⟨hstop, hpoint, hsmall, hlarge⟩ := endsNumber_iff.mp h
  have hnatural := Decimal.IsNatural.toDigits n
  have hdigits : digits (ascii (Decimal.natText n) ++ rest) = (Nat.toDigits 10 n, rest) :=
    digits_eq_iff.mpr ⟨hnatural.digits, rfl, hstop⟩
  have hexponent : exponent? rest = some (none, rest) :=
    exponent?_eq_none_iff.mpr ⟨rfl, hsmall, hlarge⟩
  rw [unsigned?, hdigits]
  dsimp only
  rw [if_neg (mt List.isEmpty_iff.mp hnatural.nonempty),
    if_neg (not_and.mpr (Decimal.head?_toDigits n))]
  split
  · exact absurd rfl hpoint
  · rw [hexponent]
    rfl

/-! ### Signs and bounds -/

/-- An integer that is read as one: it fits an unsigned or a signed 64-bit word. -/
def InWords (z : Int) : Prop := -0x8000000000000000 ≤ z ∧ z ≤ 0xFFFFFFFFFFFFFFFF

theorem natural?_ofNat (negative : Bool) (n : Nat) :
    (Decimal.natural? (NumberText.ofNat negative n).whole).getD 0 = n := by
  show (Decimal.natural? (Nat.toDigits 10 n)).getD 0 = n
  rw [Decimal.natural?_toDigits]
  rfl

/-- What is read as a float has no whole number as its value. -/
theorem float_ne_int (x : Float) (z : Int) :
    (if x.isFinite then Json.float x else .unreadable) ≠ .int z := by
  split
  · exact nofun
  · exact nofun

/-- A fraction or an exponent makes a float, also of a whole number. -/
theorem isWhole_of_value {t : NumberText} {z : Int} (h : t.value = .int z) :
    t.fraction = none ∧ t.exponent = none := by
  rw [NumberText.value] at h
  by_cases hwhole : (t.fraction.isSome || t.exponent.isSome) = true
  · rw [if_pos hwhole] at h
    exact absurd h (float_ne_int _ z)
  · rw [Bool.or_eq_true, not_or, Option.not_isSome_iff_eq_none, Option.not_isSome_iff_eq_none]
      at hwhole
    exact hwhole

/-- The value of a whole number without a sign. -/
theorem value_plain_iff {n : Nat} {z : Int} : (NumberText.ofNat false n).value = .int z ↔
    z = n ∧ InWords z := by
  rw [NumberText.value, natural?_ofNat]
  show (if n ≤ 0xFFFFFFFFFFFFFFFF then Json.int (Int.ofNat n) else _) = _ ↔ _
  unfold InWords
  by_cases hbound : n ≤ 0xFFFFFFFFFFFFFFFF
  · rw [if_pos hbound, Json.int.injEq]
    show (n : Int) = z ↔ _
    omega
  · rw [if_neg hbound, iff_false_left (float_ne_int _ z)]
    omega

/-- The value of a whole number after a minus sign: a negative zero is no whole number. -/
theorem value_minus_iff {n : Nat} {z : Int} : (NumberText.ofNat true n).value = .int z ↔
    z = -n ∧ z < 0 ∧ InWords z := by
  rw [NumberText.value, natural?_ofNat]
  show (if n = 0 ∨ 0x8000000000000000 < n then _ else Json.int (-Int.ofNat n)) = _ ↔ _
  unfold InWords
  by_cases hbound : n = 0 ∨ 0x8000000000000000 < n
  · rw [if_pos hbound, iff_false_left (float_ne_int _ z)]
    omega
  · rw [if_neg hbound, Json.int.injEq]
    show -(n : Int) = z ↔ _
    omega

/-- The digits of a natural number begin with a digit. -/
theorem exists_ascii_natText (n : Nat) :
    ∃ b bs, ascii (Decimal.natText n) = b :: bs ∧ isDigit b = true := by
  have hnatural := Decimal.IsNatural.toDigits n
  obtain ⟨hdigits, hchars⟩ := digitBytes hnatural.digits
  cases h : ascii (String.ofList (Nat.toDigits 10 n)) with
  | nil =>
    rw [h] at hchars
    exact absurd hchars.symm hnatural.nonempty
  | cons b bs =>
    rw [h] at hdigits
    exact ⟨b, bs, h, hdigits b List.mem_cons_self⟩

theorem ascii_minus (s : String) : ascii ("-" ++ s) = 0x2D :: ascii s := by
  rw [ascii, ascii, Text.toUTF8_toList_eq, Text.toUTF8_toList_eq, String.toList_append]
  rfl

/-- The text of an integer begins with a minus sign or a digit. -/
theorem exists_ascii_intText (z : Int) : ∃ b bs, ascii (Decimal.intText z) = b :: bs ∧
    (b = 0x2D ∨ isDigit b = true) := by
  rw [Decimal.intText]
  split
  · exact ⟨_, _, ascii_minus _, .inl rfl⟩
  · obtain ⟨b, bs, hbs, hdigit⟩ := exists_ascii_natText z.natAbs
    exact ⟨b, bs, hbs, .inr hdigit⟩

/-- **A whole number at the start of a text** fits a 64-bit word, is written in decimal, and ends
where no digit, point or exponent follows. -/
theorem number?_int_iff {bs rest : List UInt8} {z : Int} :
    (∃ t, number? bs = some (t, rest) ∧ t.value = .int z) ↔
      InWords z ∧ bs = ascii (Decimal.intText z) ++ rest ∧ EndsNumber rest := by
  constructor
  · rintro ⟨t, ht, hz⟩
    obtain ⟨hfraction, hexponent⟩ := isWhole_of_value hz
    unfold number? at ht
    split at ht
    · obtain ⟨n, rfl, rfl, hrest⟩ := exists_ofNat_of_unsigned? ht hfraction hexponent
      obtain ⟨rfl, hneg, hwords⟩ := value_minus_iff.mp hz
      refine ⟨hwords, ?_, hrest⟩
      rw [Decimal.intText, if_pos hneg, Int.natAbs_neg, Int.natAbs_natCast, ascii_minus]
      rfl
    · obtain ⟨n, rfl, rfl, hrest⟩ := exists_ofNat_of_unsigned? ht hfraction hexponent
      obtain ⟨rfl, hwords⟩ := value_plain_iff.mp hz
      refine ⟨hwords, ?_, hrest⟩
      rw [Decimal.intText, if_neg (Int.not_lt.mpr (Int.natCast_nonneg n)), Int.natAbs_natCast]
  · rintro ⟨hwords, rfl, hrest⟩
    rw [Decimal.intText]
    split
    · rename_i hneg
      refine ⟨.ofNat true z.natAbs, ?_, value_minus_iff.mpr ⟨by omega, hneg, hwords⟩⟩
      rw [ascii_minus]
      exact unsigned?_natText true z.natAbs hrest
    · rename_i hneg
      refine ⟨.ofNat false z.natAbs, ?_, value_plain_iff.mpr ⟨by omega, hwords⟩⟩
      obtain ⟨b, bs, hbs, hdigit⟩ := exists_ascii_natText z.natAbs
      rw [number?]
      · exact unsigned?_natText false z.natAbs hrest
      · -- a digit is no minus sign
        intro r hr
        rw [hbs] at hr
        rw [List.head_eq_of_cons_eq hr] at hdigit
        cases hdigit

/-! ### Values -/

/-- What begins like a number is read as one. -/
theorem value?_number {fuel : Nat} {bs rest : List UInt8} {b : UInt8}
    (hbs : skipSpace bs = b :: rest) (hb : b = 0x2D ∨ isDigit b = true) : value? (fuel + 1) bs =
      (number? (b :: rest)).map fun p => (p.1.value, p.2) := by
  have hne : ∀ c, (c = 0x7B ∨ c = 0x5B ∨ c = 0x22) → ¬ (c = 0x2D ∨ isDigit c = true) := by
    rintro c (rfl | rfl | rfl)
    · decide
    · decide
    · decide
  rw [value?, hbs]
  split
  · rename_i heq
    cases heq
  · rename_i heq
    exact absurd (List.head_eq_of_cons_eq heq ▸ hb) (hne _ (.inl rfl))
  · rename_i heq
    exact absurd (List.head_eq_of_cons_eq heq ▸ hb) (hne _ (.inr (.inl rfl)))
  · rename_i heq
    exact absurd (List.head_eq_of_cons_eq heq ▸ hb) (hne _ (.inr (.inr rfl)))
  · rename_i heq
    cases heq
    rw [if_pos hb]
    cases number? (b :: rest) with
    | none => rfl
    | some p => rfl

/-- A value that may be missing is no whole number if no value that may be there is one. -/
theorem getD_unreadable_ne_int {α : Type} {f : α → Json} {z : Int} (h : ∀ a, f a ≠ .int z)
    (o : Option α) : (o.map f).getD .unreadable ≠ .int z := by
  cases o with
  | none => exact nofun
  | some a => exact h a

/-- Only what begins like a number is read as a whole number. -/
theorem startsNumber_of_value? {fuel : Nat} {bs rest : List UInt8} {z : Int}
    (h : value? (fuel + 1) bs = some (.int z, rest)) :
    ∃ b r, skipSpace bs = b :: r ∧ (b = 0x2D ∨ isDigit b = true) := by
  rw [value?] at h
  split at h
  · cases h
  · split at h
    · cases h
    · obtain ⟨⟨fs, r⟩, -, h⟩ := Option.bind_eq_some_iff.mp h
      exact absurd (Prod.mk.inj (Option.some.inj h)).1 (getD_unreadable_ne_int nofun _)
  · split at h
    · cases h
    · obtain ⟨⟨items, r⟩, -, h⟩ := Option.bind_eq_some_iff.mp h
      cases h
  · obtain ⟨⟨us, r⟩, -, h⟩ := Option.bind_eq_some_iff.mp h
    exact absurd (Prod.mk.inj (Option.some.inj h)).1 (getD_unreadable_ne_int nofun _)
  · rename_i b r _ _ _ hbs
    by_cases hb : b = 0x2D ∨ isDigit b = true
    · exact ⟨b, r, hbs, hb⟩
    · rw [if_neg hb] at h
      -- the three names are not whole numbers
      simp only [Option.orElse_eq_orElse, Option.orElse_eq_or, Option.or_eq_some_iff,
        Option.map_eq_some_iff, Prod.mk.injEq, reduceCtorEq, false_and, and_false, exists_false,
        or_false] at h

/-- A number neither begins nor goes on with white space. -/
theorem not_isSpace {b : UInt8} (h : isSpace b = true) :
    ¬ (b = 0x2D ∨ isDigit b = true) ∧ continuesNumber b = false := by
  simp only [isSpace, Bool.or_eq_true, beq_iff_eq] at h
  obtain ((rfl | rfl) | rfl) | rfl := h
  · decide
  · decide
  · decide
  · decide

/-- **Whole numbers among the values**: white space and then the decimal text of the number. -/
theorem value?_int_iff {fuel : Nat} {bs rest : List UInt8} {z : Int} :
    value? (fuel + 1) bs = some (.int z, rest) ↔ InWords z ∧
      skipSpace bs = ascii (Decimal.intText z) ++ rest ∧ EndsNumber rest := by
  constructor
  · intro h
    obtain ⟨b, r, hbs, hb⟩ := startsNumber_of_value? h
    rw [value?_number hbs hb] at h
    obtain ⟨⟨t, r'⟩, ht, h⟩ := Option.map_eq_some_iff.mp h
    obtain ⟨hz, rfl⟩ := Prod.mk.inj h
    rw [hbs]
    exact number?_int_iff.mp ⟨t, ht, hz⟩
  · intro h
    obtain ⟨t, ht, hz⟩ := number?_int_iff.mpr h
    obtain ⟨b, r, hr, hb⟩ := exists_ascii_intText z
    have hbs : skipSpace bs = b :: (r ++ rest) := by
      rw [h.2.1, hr, List.cons_append]
    rw [hbs] at ht
    rw [value?_number hbs hb, ht, Option.map_some, hz]

end Reader

/-! ### Whole texts -/

/-- Some bytes with white space around them. -/
def IsSpaced (bs core : List UInt8) : Prop :=
  ∃ front back, bs = front ++ core ++ back ∧ (∀ b ∈ front, Reader.isSpace b = true) ∧
    ∀ b ∈ back, Reader.isSpace b = true

open Reader in
/-- **The text of a whole number**: it fits a 64-bit word and is written in decimal, with nothing
but white space around it. -/
theorem ofBytes?_eq_int_iff {bs : List UInt8} {z : Int} :
    ofBytes? bs = some (.int z) ↔ InWords z ∧ IsSpaced bs (ascii (Decimal.intText z)) := by
  rw [ofBytes?, Option.bind_eq_bind, Option.bind_eq_some_iff]
  constructor
  · rintro ⟨⟨j, rest⟩, hvalue, hrest⟩
    obtain ⟨hend, hj⟩ := Option.ite_none_right_eq_some.mp hrest
    obtain rfl := Option.some.inj hj
    obtain ⟨hwords, hbs, -⟩ := value?_int_iff.mp hvalue
    refine ⟨hwords, bs.takeWhile isSpace, rest, ?_, ?_, ?_⟩
    · rw [List.append_assoc, ← hbs, skipSpace, List.takeWhile_append_dropWhile]
    · exact fun b hb => List.mem_takeWhile_imp hb
    · rw [List.isEmpty_iff, skipSpace, List.dropWhile_eq_nil_iff] at hend
      exact hend
  · rintro ⟨hwords, front, back, rfl, hfront, hback⟩
    obtain ⟨b, r, hr, hb⟩ := exists_ascii_intText z
    have hstart : skipSpace (front ++ ascii (Decimal.intText z) ++ back) =
        ascii (Decimal.intText z) ++ back := by
      rw [List.append_assoc]
      refine (Text.takeWhile_append_stop hfront ?_).2
      intro c hc
      rw [hr] at hc
      rw [← Bool.not_eq_true, ← Option.some.inj hc]
      exact fun hspace => (not_isSpace hspace).1 hb
    have hends : EndsNumber back := by
      intro c hc
      exact (not_isSpace (hback c (List.mem_of_mem_head? hc))).2
    have hend : (skipSpace back).isEmpty = true := by
      rw [List.isEmpty_iff, skipSpace, List.dropWhile_eq_nil_iff]
      exact hback
    exact ⟨_, value?_int_iff.mpr ⟨hwords, hstart, hends⟩, if_pos hend⟩

theorem wholeOfBytes?_eq_int_iff {bs : List UInt8} {z : Int} :
    wholeOfBytes? bs = some (.int z) ↔
      Reader.InWords z ∧ IsSpaced bs (Reader.ascii (Decimal.intText z)) := by
  rw [wholeOfBytes?, Option.filter_eq_some_iff, ofBytes?_eq_int_iff, and_iff_left]
  rfl

end GaleraHealth.Json
