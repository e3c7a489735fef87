import Mathlib.Tactic.SplitIfs
import GaleraHealth.Proofs.EncodedText
import GaleraHealth.Text.Utf8

/-!
# Text that is sent as UTF-8

Bytes are read as text in any case, and broken sequences are replaced. What is sent as UTF-8 is read
as it was sent, also next to bytes that are broken.

* `decodeLossy_utf8EncodeChar`: the bytes of one character are read as that character, and reading
  goes on behind them.
* `follow_append`, `decodeLossy_append`: a character ends where a byte comes that is not one of its
  following bytes, so what comes behind does not change how the bytes before are read.
* `decodeLossy_utf8`: whole characters around some bytes are read as they are.
-/

namespace GaleraHealth

namespace Text

/-! ### One character -/

/-- A byte that follows a lead byte and never starts a character. -/
def IsFollower (b : UInt8) : Prop := 128 ≤ b.toNat ∧ b.toNat ≤ 191

theorem followers?_one {n : Nat} (h : n < 128) : followers? (UInt8.ofNat n) = some (n, []) := by
  revert n
  decide

/-- The first two of these lead bytes would only be a longer form of a character of one byte. -/
theorem followers?_two {n : Nat} (h : n < 30) :
    followers? (UInt8.ofNat (n + 2 + 192)) = some (n + 2, [(0x80, 0xBF)]) := by
  revert n
  decide

/-- The second byte has bounds of its own where a shorter form or a surrogate would be possible. -/
theorem followers?_three {n : Nat} (h : n < 16) :
    followers? (UInt8.ofNat (n + 224)) =
      some (n, [(if n = 0 then 0xA0 else 0x80, if n = 13 then 0x9F else 0xBF), (0x80, 0xBF)]) := by
  revert n
  decide

/-- The second byte has bounds of its own where a shorter form, or no code point, would be
possible. -/
theorem followers?_four {n : Nat} (h : n < 5) :
    followers? (UInt8.ofNat (n + 240)) =
      some (n, [(if n = 0 then 0x90 else 0x80, if n = 4 then 0x8F else 0xBF), (0x80, 0xBF),
        (0x80, 0xBF)]) := by
  revert n
  decide

theorem follow_ofNat {n : Nat} (h : n < 64) {low high : UInt8} (hlow : low.toNat ≤ n + 128)
    (hhigh : n + 128 ≤ high.toNat) (point : Nat) (bounds : List (UInt8 × UInt8))
    (rest : List UInt8) :
    follow point ((low, high) :: bounds) (UInt8.ofNat (n + 128) :: rest) =
      follow (point * 64 + n) bounds rest := by
  have hbyte : (UInt8.ofNat (n + 128)).toNat = n + 128 := Base64.toNat_ofNat_of_lt (by omega)
  rw [follow, if_pos, hbyte, Nat.add_sub_cancel]
  rw [UInt8.le_iff_toNat_le, UInt8.le_iff_toNat_le, hbyte]
  exact ⟨hlow, hhigh⟩

/-- A following byte without bounds of its own. -/
theorem follow_any {n : Nat} (h : n < 64) (point : Nat) (bounds : List (UInt8 × UInt8))
    (rest : List UInt8) :
    follow point ((0x80, 0xBF) :: bounds) (UInt8.ofNat (n + 128) :: rest) =
      follow (point * 64 + n) bounds rest := by
  apply follow_ofNat h
  · show 128 ≤ n + 128
    omega
  · show n + 128 ≤ 191
    omega

theorem decodeLossy_cons {lead : UInt8} {point : Nat} {bounds : List (UInt8 × UInt8)}
    (h : followers? lead = some (point, bounds)) (rest : List UInt8) :
    decodeLossy (lead :: rest) =
      ((follow point bounds rest).1.map Char.ofNat).getD replacement ::
        decodeLossy (follow point bounds rest).2 := by
  rw [decodeLossy, h]

/-- **One character** is read from its bytes. -/
theorem decodeLossy_utf8EncodeChar (c : Char) (rest : List UInt8) :
    decodeLossy (String.utf8EncodeChar c ++ rest) = c :: decodeLossy rest := by
  have hvalid : c.val.toNat < 55296 ∨ 57343 < c.val.toNat ∧ c.val.toNat < 1114112 := c.valid
  have hchar : Char.ofNat c.val.toNat = c := Char.ofNat_toNat c
  rw [String.utf8EncodeChar]
  generalize c.val.toNat = v at hvalid hchar
  -- one, two, three or four bytes
  by_cases h₁ : v ≤ 127
  · rw [if_pos h₁, List.cons_append, List.nil_append,
      decodeLossy_cons (followers?_one (Nat.lt_succ_of_le h₁)), follow, ← hchar]
    rfl
  rw [if_neg h₁]
  by_cases h₂ : v ≤ 2047
  · obtain ⟨n, hn⟩ : ∃ n, v / 64 % 32 = n + 2 := ⟨v / 64 % 32 - 2, by omega⟩
    have hpoint : (n + 2) * 64 + v % 64 = v := by omega
    rw [if_pos h₂, List.cons_append, List.cons_append, List.nil_append, hn,
      decodeLossy_cons (followers?_two (by omega)),
      follow_any (by omega), follow, hpoint, ← hchar]
    rfl
  rw [if_neg h₂]
  by_cases h₃ : v ≤ 65535
  · have hpoint : (v / 4096 % 16 * 64 + v / 64 % 64) * 64 + v % 64 = v := by omega
    rw [if_pos h₃, List.cons_append, List.cons_append, List.cons_append, List.nil_append,
      decodeLossy_cons (followers?_three (by omega)), follow_ofNat (by omega),
      follow_any (by omega), follow, hpoint, ← hchar]
    · rfl
    · split_ifs
      · show 160 ≤ _
        omega
      · show 128 ≤ _
        omega
    · split_ifs
      · show _ ≤ 159
        omega
      · show _ ≤ 191
        omega
  rw [if_neg h₃]
  have hpoint : ((v / 262144 % 8 * 64 + v / 4096 % 64) * 64 + v / 64 % 64) * 64 + v % 64 = v := by
    omega
  rw [List.cons_append, List.cons_append, List.cons_append, List.cons_append, List.nil_append,
    decodeLossy_cons (followers?_four (by omega)), follow_ofNat (by omega),
    follow_any (by omega), follow_any (by omega), follow, hpoint, ← hchar]
  · rfl
  · split_ifs
    · show 144 ≤ _
      omega
    · show 128 ≤ _
      omega
  · split_ifs
    · show _ ≤ 143
      omega
    · show _ ≤ 191
      omega

/-! ### Bytes next to each other -/

/-- Every bound of a following byte keeps it off the bytes that start a character. -/
theorem bounds_of_followers? {lead : UInt8} {point : Nat} {bounds : List (UInt8 × UInt8)}
    (h : followers? lead = some (point, bounds)) :
    ∀ bound ∈ bounds, 128 ≤ bound.1.toNat ∧ bound.2.toNat ≤ 191 := by
  simp only [followers?] at h
  -- one case for each run of lead bytes, two of which start nothing
  split_ifs at h
  all_goals
    rw [Option.some.injEq, Prod.mk.injEq] at h
    obtain ⟨-, rfl⟩ := h
    simp

/-- A row of bytes that does not go on with a character begun before it. -/
def StartsAnew (bs : List UInt8) : Prop :=
  ∀ b ∈ bs.head?, ¬ IsFollower b

theorem follow_append {more : List UInt8} (hmore : StartsAnew more)
    {bounds : List (UInt8 × UInt8)}
    (hbounds : ∀ bound ∈ bounds, 128 ≤ bound.1.toNat ∧ bound.2.toNat ≤ 191) (point : Nat)
    (bs : List UInt8) :
    follow point bounds (bs ++ more) =
      ((follow point bounds bs).1, (follow point bounds bs).2 ++ more) := by
  induction bounds generalizing point bs with
  | nil => rfl
  | cons bound bounds ih =>
    obtain ⟨low, high⟩ := bound
    obtain ⟨⟨hlow, hhigh⟩, hrest⟩ := List.forall_mem_cons.mp hbounds
    cases bs with
    | cons b bs =>
      simp only [List.cons_append, follow]
      split_ifs with hb
      · exact ih hrest _ bs
      · rfl
    | nil =>
      -- the character is broken off by what comes next
      cases more with
      | nil => rfl
      | cons b more =>
        have hb : ¬ (low ≤ b ∧ b ≤ high) := by
          rw [UInt8.le_iff_toNat_le, UInt8.le_iff_toNat_le]
          intro hb
          apply hmore b rfl
          exact ⟨Nat.le_trans hlow hb.1, Nat.le_trans hb.2 hhigh⟩
        rw [List.nil_append, follow, follow, if_neg hb]
        rfl

/-- **Bytes next to each other** are read each for themselves where a character starts between
them. -/
theorem decodeLossy_append {more : List UInt8} (hmore : StartsAnew more) (bs : List UInt8) :
    decodeLossy (bs ++ more) = decodeLossy bs ++ decodeLossy more := by
  fun_induction decodeLossy bs with
  | case1 => rw [List.nil_append, List.nil_append]
  | case2 lead rest hlead ih =>
    rw [List.cons_append, decodeLossy, hlead]
    show replacement :: decodeLossy (rest ++ more) = _
    rw [ih, List.cons_append]
  | case3 lead rest point bounds hlead read ih =>
    rw [List.cons_append, decodeLossy_cons hlead,
      follow_append hmore (bounds_of_followers? hlead) point rest, ih, List.cons_append]

/-! ### Whole characters -/

theorem startsAnew_utf8EncodeChar (c : Char) (more : List UInt8) :
    StartsAnew (String.utf8EncodeChar c ++ more) := by
  have hlead : ∀ n, n < 256 → (n < 128 ∨ 191 < n) → ¬ IsFollower (UInt8.ofNat n) := by
    intro n hn hstart
    rw [IsFollower, Base64.toNat_ofNat_of_lt hn]
    omega
  have hvalid : c.val.toNat < 55296 ∨ 57343 < c.val.toNat ∧ c.val.toNat < 1114112 := c.valid
  intro b hb
  rw [String.utf8EncodeChar] at hb
  generalize c.val.toNat = v at hvalid hb
  split_ifs at hb
  all_goals
    obtain rfl := Option.some.inj hb
    apply hlead
    · omega
    · omega

/-- What is sent as UTF-8 does not go on with a broken character before it. -/
theorem startsAnew_utf8 (cs : List Char) : StartsAnew (cs.flatMap String.utf8EncodeChar) := by
  cases cs with
  | nil =>
    intro b hb
    cases hb
  | cons c cs =>
    rw [List.flatMap_cons]
    exact startsAnew_utf8EncodeChar c _

theorem decodeLossy_utf8_append (cs : List Char) (more : List UInt8) :
    decodeLossy (cs.flatMap String.utf8EncodeChar ++ more) = cs ++ decodeLossy more := by
  induction cs with
  | nil => rfl
  | cons c cs ih =>
    rw [List.flatMap_cons, List.append_assoc, decodeLossy_utf8EncodeChar, ih, List.cons_append]

/-- **Characters around some bytes** are read as they are, and do not change how the bytes are
read. -/
theorem decodeLossy_between (front back : List Char) (bs : List UInt8) :
    decodeLossy (front.flatMap String.utf8EncodeChar ++ bs ++
        back.flatMap String.utf8EncodeChar) = front ++ decodeLossy bs ++ back := by
  have hback : decodeLossy (back.flatMap String.utf8EncodeChar) = back := by
    have h := decodeLossy_utf8_append back []
    rwa [List.append_nil, decodeLossy, List.append_nil] at h
  rw [decodeLossy_append (startsAnew_utf8 back), decodeLossy_utf8_append, hback]

/-- A text that is sent as UTF-8 is read as it is. -/
theorem ofBytesLossy_toUTF8 (s : String) : ofBytesLossy s.toUTF8.toList = s := by
  have h := decodeLossy_between s.toList [] []
  rw [List.append_nil, List.flatMap_nil, List.append_nil, decodeLossy, List.append_nil,
    List.append_nil, ← toUTF8_toList_eq] at h
  rw [ofBytesLossy, h, String.ofList_toList]

end Text

end GaleraHealth
