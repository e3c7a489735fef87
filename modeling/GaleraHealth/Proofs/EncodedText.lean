import GaleraHealth.Text.Base64

/-!
# Bytes written as text and read back

A text is a row of bytes in UTF-8, and a row of bytes is a text in base64. Both ways of writing have
one written form only: a reader accepts exactly what the writer produces.

* `fromUTF8?_eq_some_iff`: bytes are read as a text exactly when they are the UTF-8 of that text.
* `value?_eq_some_iff`: a byte stands for six bits exactly when it is their symbol.
* `encode_three`, `encode_two`, `encode_one`: a group of symbols is written for the bytes that are
  read from it, if its unused bits are zero.
* `decode?_eq_some_iff`: a base64 text is read as some bytes exactly when it is written for them.
-/

namespace GaleraHealth

namespace Text

/-! ### UTF-8 -/

theorem toList_loop (b : ByteArray) (i : Nat) (r : List UInt8) :
    ByteArray.toList.loop b i r = r.reverse ++ b.data.toList.drop i := by
  fun_induction ByteArray.toList.loop b i r with
  | case1 i r hi ih =>
    have hget : b.get! i = b.data.toList[i] := by
      rw [ByteArray.get!, getElem!_pos b.data i hi, Array.getElem_toList]
    rw [ih, List.reverse_cons, List.append_assoc, List.singleton_append, hget,
      List.getElem_cons_drop]
  | case2 i r hi =>
    rw [List.drop_of_length_le (Nat.le_of_not_lt hi), List.append_nil]

/-- The list of some bytes. `ByteArray.toList` counts through them, which nothing evaluates. -/
theorem toList_eq_data (b : ByteArray) : b.toList = b.data.toList := by
  rw [ByteArray.toList, toList_loop, List.reverse_nil, List.nil_append, List.drop_zero]

/-- The bytes of a text are those of its characters. -/
theorem toUTF8_toList_eq (s : String) :
    s.toUTF8.toList = s.toList.flatMap String.utf8EncodeChar := by
  rw [toList_eq_data, String.toUTF8_eq_toByteArray, ← String.utf8Encode_toList]
  simp [List.utf8Encode]

/-- A character of ASCII is one byte. -/
theorem utf8EncodeChar_of_lt {c : Char} (h : c.toNat < 128) :
    String.utf8EncodeChar c = [c.val.toUInt8] := by
  have hle : c.val.toNat ≤ 127 := Nat.le_of_lt_succ h
  simp only [String.utf8EncodeChar, if_pos hle]
  rfl

theorem toNat_byte {c : Char} (h : c.toNat < 128) : c.val.toUInt8.toNat = c.toNat := by
  show c.val.toUInt8.toNat = c.val.toNat
  have hlt : c.val.toNat < 256 := Nat.lt_of_lt_of_le h (by decide)
  rw [UInt32.toNat_toUInt8]
  exact Nat.mod_eq_of_lt hlt

/-- Every byte of a character outside ASCII is outside ASCII. -/
theorem le_of_mem_utf8EncodeChar {c : Char} (h : 128 ≤ c.toNat) :
    ∀ b ∈ String.utf8EncodeChar c, 128 ≤ b.toNat := by
  have hhigh : ∀ n, 128 ≤ n → n < 256 → 128 ≤ (UInt8.ofNat n).toNat := by
    intro n hle hlt
    rw [UInt8.toNat_ofNat_of_lt' hlt]
    exact hle
  have hnot : ¬ c.val.toNat ≤ 127 := Nat.not_le_of_lt h
  intro b hb
  simp only [String.utf8EncodeChar, if_neg hnot] at hb
  -- two, three or four bytes
  split at hb
  · simp only [List.mem_cons, List.not_mem_nil, or_false] at hb
    rcases hb with rfl | rfl <;> exact hhigh _ (by omega) (by omega)
  · split at hb
    · simp only [List.mem_cons, List.not_mem_nil, or_false] at hb
      rcases hb with rfl | rfl | rfl <;> exact hhigh _ (by omega) (by omega)
    · simp only [List.mem_cons, List.not_mem_nil, or_false] at hb
      rcases hb with rfl | rfl | rfl | rfl <;> exact hhigh _ (by omega) (by omega)

/-- **UTF-8 has one written form.** -/
theorem fromUTF8?_eq_some_iff {bs : List UInt8} {s : String} :
    String.fromUTF8? ⟨bs.toArray⟩ = some s ↔ bs = s.toUTF8.toList := by
  have hbytes : s.toByteArray = ⟨bs.toArray⟩ ↔ bs = s.toUTF8.toList := by
    rw [toList_eq_data, String.toUTF8_eq_toByteArray]
    constructor
    · intro h
      rw [h]
    · rintro rfl
      rfl
  rw [← hbytes, String.fromUTF8?]
  by_cases hvalid : ByteArray.IsValidUTF8 ⟨bs.toArray⟩
  · rw [dif_pos hvalid, Option.some.injEq]
    constructor
    · rintro rfl
      rfl
    · intro h
      rw [← String.toByteArray_inj, h]
      rfl
  · rw [dif_neg hvalid]
    constructor
    · intro h
      cases h
    · intro h
      rw [← h] at hvalid
      exact absurd s.isValidUTF8 hvalid

/-- The bytes of a text tell which text it is. -/
theorem toUTF8_toList_inj {s t : String} : s.toUTF8.toList = t.toUTF8.toList ↔ s = t := by
  constructor
  · intro h
    have hs := fromUTF8?_eq_some_iff.mpr (rfl : s.toUTF8.toList = s.toUTF8.toList)
    rw [h, fromUTF8?_eq_some_iff.mpr rfl] at hs
    exact (Option.some.inj hs).symm
  · rintro rfl
    rfl

end Text

namespace Base64

/-! ### Symbols -/

theorem ofNat_eq_of_toNat {n : Nat} {b : UInt8} (h : n = b.toNat) : UInt8.ofNat n = b := by
  rw [h, UInt8.ofNat_toNat]

/-- The bound is a number here, for `omega`. -/
theorem toNat_ofNat_of_lt {n : Nat} (h : n < 256) : (UInt8.ofNat n).toNat = n :=
  UInt8.toNat_ofNat_of_lt' h

theorem value?_symbol {n : Nat} (h : n < 64) : value? (symbol n) = some n := by
  revert n
  decide

theorem symbol_of_value? {b : UInt8} {n : Nat} (h : value? b = some n) :
    n < 64 ∧ symbol n = b := by
  unfold value? at h
  simp only [UInt8.le_iff_toNat_le, UInt8.reduceToNat] at h
  -- one case for each run of the alphabet
  split at h
  · rename_i hcapital
    obtain rfl := Option.some.inj h
    refine ⟨by omega, ?_⟩
    rw [symbol, if_pos (by omega)]
    exact ofNat_eq_of_toNat (by omega)
  · split at h
    · rename_i hsmall
      obtain rfl := Option.some.inj h
      refine ⟨by omega, ?_⟩
      rw [symbol, if_neg (by omega), if_pos (by omega)]
      exact ofNat_eq_of_toNat (by omega)
    · split at h
      · rename_i hdigit
        obtain rfl := Option.some.inj h
        refine ⟨by omega, ?_⟩
        rw [symbol, if_neg (by omega), if_neg (by omega), if_pos (by omega)]
        exact ofNat_eq_of_toNat (by omega)
      · split at h
        · rename_i hplus
          obtain rfl := Option.some.inj h
          rw [hplus]
          decide
        · split at h
          · rename_i hslash
            obtain rfl := Option.some.inj h
            rw [hslash]
            decide
          · cases h

/-- A byte stands for six bits exactly when it is their symbol. -/
theorem value?_eq_some_iff {b : UInt8} {n : Nat} :
    value? b = some n ↔ n < 64 ∧ b = symbol n := by
  constructor
  · intro h
    obtain ⟨hn, hsymbol⟩ := symbol_of_value? h
    exact ⟨hn, hsymbol.symm⟩
  · rintro ⟨hn, rfl⟩
    exact value?_symbol hn

theorem symbol_ne_pad {n : Nat} (h : n < 64) : symbol n ≠ pad := by
  intro hpad
  have hvalue := value?_symbol h
  rw [hpad] at hvalue
  cases hvalue

/-! ### Groups -/

theorem three_bytes (a b c : UInt8) :
    three (a.toNat / 4) (a.toNat % 4 * 16 + b.toNat / 16) (b.toNat % 16 * 4 + c.toNat / 64)
      (c.toNat % 64) = [a, b, c] := by
  have ha := a.toNat_lt
  have hb := b.toNat_lt
  have hc := c.toNat_lt
  rw [three, ofNat_eq_of_toNat (b := a) (by omega), ofNat_eq_of_toNat (b := b) (by omega),
    ofNat_eq_of_toNat (b := c) (by omega)]

theorem encode_three {x y z w : Nat} (hx : x < 64) (hy : y < 64) (hz : z < 64) (hw : w < 64)
    (rest : List UInt8) : encode (three x y z w ++ rest) =
      symbol x :: symbol y :: symbol z :: symbol w :: encode rest := by
  have hfirst : (x * 4 + y / 16) / 4 = x := by omega
  have hsecond : (x * 4 + y / 16) % 4 * 16 + (y % 16 * 16 + z / 4) / 16 = y := by omega
  have hthird : (y % 16 * 16 + z / 4) % 16 * 4 + (z % 4 * 64 + w) / 64 = z := by omega
  have hfourth : (z % 4 * 64 + w) % 64 = w := by omega
  rw [three, List.cons_append, List.cons_append, List.cons_append, List.nil_append, encode,
    toNat_ofNat_of_lt (by omega), toNat_ofNat_of_lt (by omega), toNat_ofNat_of_lt (by omega),
    hfirst, hsecond, hthird, hfourth]

theorem encode_two {x y z : Nat} (hx : x < 64) (hy : y < 64) (hz : z < 64) (hunused : z % 4 = 0) :
    encode [UInt8.ofNat (x * 4 + y / 16), UInt8.ofNat (y % 16 * 16 + z / 4)] =
      [symbol x, symbol y, symbol z, pad] := by
  have hfirst : (x * 4 + y / 16) / 4 = x := by omega
  have hsecond : (x * 4 + y / 16) % 4 * 16 + (y % 16 * 16 + z / 4) / 16 = y := by omega
  have hthird : (y % 16 * 16 + z / 4) % 16 * 4 = z := by omega
  rw [encode, toNat_ofNat_of_lt (by omega), toNat_ofNat_of_lt (by omega), hfirst, hsecond, hthird]

theorem encode_one {x y : Nat} (hx : x < 64) (hy : y < 64) (hunused : y % 16 = 0) :
    encode [UInt8.ofNat (x * 4 + y / 16)] = [symbol x, symbol y, pad, pad] := by
  have hfirst : (x * 4 + y / 16) / 4 = x := by omega
  have hsecond : (x * 4 + y / 16) % 4 * 16 = y := by omega
  rw [encode, toNat_ofNat_of_lt (by omega), hfirst, hsecond]

/-! ### Whole texts -/

theorem decode?_encode (xs : List UInt8) : decode? (encode xs) = some xs := by
  fun_induction encode xs with
  | case1 a b c rest ih =>
    have ha := a.toNat_lt
    have hb := b.toNat_lt
    have hc := c.toNat_lt
    -- a group of four symbols is not the padded last one
    have hfull : (symbol (c.toNat % 64) == pad) = false := by
      rw [beq_eq_false_iff_ne]
      exact symbol_ne_pad (by omega)
    rw [decode?, value?_symbol (by omega), value?_symbol (by omega)]
    simp only [Option.bind_eq_bind, Option.bind_some, hfull, Bool.and_false, Bool.false_eq_true,
      if_false]
    rw [value?_symbol (by omega), value?_symbol (by omega), ih]
    simp only [Option.bind_some, three_bytes]
    rfl
  | case2 a b =>
    have ha := a.toNat_lt
    have hb := b.toNat_lt
    have htwo : (symbol (b.toNat % 16 * 4) == pad) = false := by
      rw [beq_eq_false_iff_ne]
      exact symbol_ne_pad (by omega)
    rw [decode?, value?_symbol (by omega), value?_symbol (by omega)]
    simp only [Option.bind_eq_bind, Option.bind_some, List.isEmpty_nil, beq_self_eq_true,
      Bool.and_true, if_true, htwo, Bool.false_eq_true, if_false]
    rw [value?_symbol (by omega), Option.bind_some, if_pos (by omega),
      ofNat_eq_of_toNat (b := a) (by omega), ofNat_eq_of_toNat (b := b) (by omega)]
  | case3 a =>
    have ha := a.toNat_lt
    rw [decode?, value?_symbol (by omega), value?_symbol (by omega)]
    simp only [Option.bind_eq_bind, Option.bind_some, List.isEmpty_nil, beq_self_eq_true,
      Bool.and_true, if_true]
    rw [if_pos (by omega), ofNat_eq_of_toNat (b := a) (by omega)]
  | case4 => rfl

theorem encode_of_decode? {text xs : List UInt8} (h : decode? text = some xs) :
    encode xs = text := by
  fun_induction decode? text generalizing xs with
  | case1 =>
    cases h
    rfl
  | case2 a b c d rest ih =>
    obtain ⟨x, hvx, hx⟩ := Option.bind_eq_some_iff.mp h
    obtain ⟨y, hvy, hy⟩ := Option.bind_eq_some_iff.mp hx
    obtain ⟨hx64, rfl⟩ := value?_eq_some_iff.mp hvx
    obtain ⟨hy64, rfl⟩ := value?_eq_some_iff.mp hvy
    by_cases hlast : (rest.isEmpty && d == pad) = true
    · rw [if_pos hlast] at hy
      rw [Bool.and_eq_true, List.isEmpty_iff, beq_iff_eq] at hlast
      rw [hlast.1, hlast.2]
      by_cases hone : (c == pad) = true
      · rw [if_pos hone] at hy
        obtain ⟨hunused, hxs⟩ := Option.ite_none_right_eq_some.mp hy
        obtain rfl := Option.some.inj hxs
        rw [beq_iff_eq.mp hone]
        exact encode_one hx64 hy64 hunused
      · rw [if_neg hone] at hy
        obtain ⟨z, hvz, hz⟩ := Option.bind_eq_some_iff.mp hy
        obtain ⟨hz64, rfl⟩ := value?_eq_some_iff.mp hvz
        obtain ⟨hunused, hxs⟩ := Option.ite_none_right_eq_some.mp hz
        obtain rfl := Option.some.inj hxs
        exact encode_two hx64 hy64 hz64 hunused
    · rw [if_neg hlast] at hy
      obtain ⟨z, hvz, hz⟩ := Option.bind_eq_some_iff.mp hy
      obtain ⟨w, hvw, hw⟩ := Option.bind_eq_some_iff.mp hz
      obtain ⟨bytes, hbytes, hxs⟩ := Option.bind_eq_some_iff.mp hw
      obtain ⟨hz64, rfl⟩ := value?_eq_some_iff.mp hvz
      obtain ⟨hw64, rfl⟩ := value?_eq_some_iff.mp hvw
      obtain rfl := Option.some.inj hxs
      rw [encode_three hx64 hy64 hz64 hw64, ih hbytes]
  | case3 => cases h

/-- **Base64 has one written form.** -/
theorem decode?_eq_some_iff {text xs : List UInt8} :
    decode? text = some xs ↔ text = encode xs := by
  constructor
  · intro h
    exact (encode_of_decode? h).symm
  · rintro rfl
    exact decode?_encode xs

/-- Bytes that are written alike are the same. -/
theorem encode_inj {xs ys : List UInt8} : encode xs = encode ys ↔ xs = ys := by
  rw [← decode?_eq_some_iff, decode?_encode, Option.some.injEq, eq_comm]

/-- A base64 text is made of symbols and padding. -/
theorem mem_encode {b : UInt8} {xs : List UInt8} (h : b ∈ encode xs) :
    b = pad ∨ ∃ n < 64, b = symbol n := by
  fun_induction encode xs with
  | case1 x y z rest ih =>
    have hx := x.toNat_lt
    have hy := y.toNat_lt
    have hz := z.toNat_lt
    simp only [List.mem_cons] at h
    rcases h with rfl | rfl | rfl | rfl | hrest
    · exact .inr ⟨_, by omega, rfl⟩
    · exact .inr ⟨_, by omega, rfl⟩
    · exact .inr ⟨_, by omega, rfl⟩
    · exact .inr ⟨_, by omega, rfl⟩
    · exact ih hrest
  | case2 x y =>
    have hx := x.toNat_lt
    have hy := y.toNat_lt
    simp only [List.mem_cons, List.not_mem_nil, or_false] at h
    rcases h with rfl | rfl | rfl | rfl
    · exact .inr ⟨_, by omega, rfl⟩
    · exact .inr ⟨_, by omega, rfl⟩
    · exact .inr ⟨_, by omega, rfl⟩
    · exact .inl rfl
  | case3 x =>
    have hx := x.toNat_lt
    simp only [List.mem_cons, List.not_mem_nil, or_false] at h
    rcases h with rfl | rfl | rfl | rfl
    · exact .inr ⟨_, by omega, rfl⟩
    · exact .inr ⟨_, by omega, rfl⟩
    · exact .inl rfl
    · exact .inl rfl
  | case4 => cases h

end Base64

end GaleraHealth
