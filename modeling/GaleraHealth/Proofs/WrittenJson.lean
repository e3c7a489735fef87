import GaleraHealth.Json.Writer
import GaleraHealth.Proofs.IntegerText

/-!
# Written values are read back

A value is written on one line without white space, and the bytes of the line are read again.
Strings and whole numbers that fit a word come back as they were, and so does what is made of them;
floats are left out. The reader has fuel, and two steps for each byte are enough.

* `Spells`, `exists_spells_escapeChar`, `exists_units?_quoted`: strings, one character at a time.
* `IsExact`, `written`: the values of which nothing is lost, and their bytes.
* `value?_array_cons`, `items?_cons`, `fields?_cons`: one step of the reader for each way to write.
* `ReadsBack`, `readsBack`: the three parts of the reader together, by induction on the fuel.
* `ofBytes?_written`: a whole value.
-/

namespace GaleraHealth.Json

namespace Reader

/-! ### Bytes of texts -/

theorem ascii_of_toList {s : String} {cs : List Char} (h : s.toList = cs) :
    ascii s = cs.flatMap String.utf8EncodeChar := by
  rw [ascii, Text.toUTF8_toList_eq, h]

theorem ascii_append (s t : String) : ascii (s ++ t) = ascii s ++ ascii t := by
  rw [ascii, ascii, ascii, Text.toUTF8_toList_eq, Text.toUTF8_toList_eq, Text.toUTF8_toList_eq,
    String.toList_append, List.flatMap_append]

theorem ascii_singleton (c : Char) : ascii (String.singleton c) = String.utf8EncodeChar c := by
  rw [ascii, Text.toUTF8_toList_eq, String.toList_singleton, List.flatMap_singleton]

/-! ### Strings -/

/-- A byte that stands for itself in a string. -/
def IsPlain (b : UInt8) : Prop := b ≠ 0x22 ∧ b ≠ 0x5C ∧ ¬ b < 0x20

theorem units?_plain {b : UInt8} (h : IsPlain b) (bs : List UInt8) :
    units? (b :: bs) = (units? bs).map fun p => (.byte b :: p.1, p.2) := by
  obtain ⟨hquote, hbackslash, hlow⟩ := h
  rw [units?]
  · rw [if_neg hlow]
    cases units? bs with
    | none => rfl
    | some p => rfl
  · exact hquote
  · exact fun _ _ _ _ _ hb _ => hbackslash hb
  · exact fun _ _ hb _ => hbackslash hb

theorem units?_escape {e b : UInt8} (he : e ≠ 0x75) (hb : escape? e = some b) (bs : List UInt8) :
    units? (0x5C :: e :: bs) = (units? bs).map fun p => (.byte b :: p.1, p.2) := by
  rw [units?]
  · rw [hb]
    cases units? bs with
    | none => rfl
    | some p => rfl
  · exact fun _ _ _ _ _ heq _ => he heq

theorem units?_code {a b c d : UInt8} {n : Nat} (h : fourHex? a b c d = some n)
    (bs : List UInt8) : units? (0x5C :: 0x75 :: a :: b :: c :: d :: bs) =
      (units? bs).map fun p => (.code n :: p.1, p.2) := by
  rw [units?, h]
  cases units? bs with
  | none => rfl
  | some p => rfl

theorem unitBytes?_byte (b : UInt8) (us : List Item) :
    unitBytes? (.byte b :: us) = (unitBytes? us).map (b :: ·) := by
  rw [unitBytes?]

/-- A code below the surrogates stands alone. -/
theorem unitBytes?_code {n : Nat} (h : n < 0xD800) (us : List Item) :
    unitBytes? (.code n :: us) = (unitBytes? us).map (codeBytes n ++ ·) := by
  have hhigh : ¬ (0xD800 ≤ n ∧ n < 0xDC00) := by omega
  have hlow : ¬ (0xDC00 ≤ n ∧ n < 0xE000) := by omega
  have hboth : ¬ (0xD800 ≤ n ∧ n < 0xE000) := by omega
  cases us with
  | nil => simp only [unitBytes?, if_neg hboth]
  | cons u us =>
    cases u with
    | byte b => simp only [unitBytes?, if_neg hboth]
    | code lo => rw [unitBytes?, if_neg hhigh, if_neg hlow]

/-- Some bytes are items of a string that stand for other bytes. -/
def Spells (bs : List UInt8) (us : List Item) (text : List UInt8) : Prop :=
  (∀ rest, units? (bs ++ rest) = (units? rest).map fun p => (us ++ p.1, p.2)) ∧
    ∀ vs, unitBytes? (us ++ vs) = (unitBytes? vs).map (text ++ ·)

theorem Spells.nil : Spells [] [] [] := by
  constructor
  · intro rest
    cases h : units? rest <;> simp [h]
  · intro vs
    cases h : unitBytes? vs <;> simp [h]

theorem Spells.append {bs cs text text' : List UInt8} {us vs : List Item} (h : Spells bs us text)
    (h' : Spells cs vs text') : Spells (bs ++ cs) (us ++ vs) (text ++ text') := by
  constructor
  · intro rest
    rw [List.append_assoc, h.1, h'.1]
    cases units? rest <;> simp
  · intro ws
    rw [List.append_assoc, h.2, h'.2]
    cases unitBytes? ws <;> simp

theorem Spells.plain {bs : List UInt8} (h : ∀ b ∈ bs, IsPlain b) :
    Spells bs (bs.map .byte) bs := by
  induction bs with
  | nil => exact .nil
  | cons b bs ih =>
    rw [List.forall_mem_cons] at h
    have hfirst : Spells [b] [.byte b] [b] :=
      ⟨units?_plain h.1, unitBytes?_byte b⟩
    exact hfirst.append (ih h.2)

theorem Spells.escape {e b : UInt8} (he : e ≠ 0x75) (hb : escape? e = some b) :
    Spells [0x5C, e] [.byte b] [b] :=
  ⟨units?_escape he hb, unitBytes?_byte b⟩

theorem Spells.code {a b c d : UInt8} {n : Nat} (h : fourHex? a b c d = some n) (hn : n < 0xD800) :
    Spells [0x5C, 0x75, a, b, c, d] [.code n] (codeBytes n) :=
  ⟨units?_code h, unitBytes?_code hn⟩

/-- A character with an escape of one letter. -/
theorem exists_spells_escape {s : String} {c : Char} {e b : UInt8}
    (hs : s.toList.flatMap String.utf8EncodeChar = [0x5C, e])
    (hc : String.utf8EncodeChar c = [b]) (he : e ≠ 0x75) (hb : escape? e = some b) :
    ∃ us, Spells (ascii s) us (String.utf8EncodeChar c) := by
  rw [ascii, Text.toUTF8_toList_eq, hs, hc]
  exact ⟨_, .escape he hb⟩

/-- A control character, by the two last digits of its number. -/
theorem exists_spells_control {c : Char} (h : c.toNat < 0x20) : ∃ us, Spells
    (ascii ("\\u00" ++ String.ofList [hexDigit (c.toNat / 16), hexDigit (c.toNat % 16)])) us
    (String.utf8EncodeChar c) := by
  have hchar : String.utf8EncodeChar c = codeBytes c.toNat := by
    rw [codeBytes, Char.ofNat_toNat]
    exact (ascii_singleton c).symm
  have hfront : ascii "\\u00" = [0x5C, 0x75, 0x30, 0x30] := ascii_of_toList rfl
  have hdigits : ∀ n < 0x20,
      [hexDigit (n / 16), hexDigit (n % 16)].flatMap String.utf8EncodeChar =
        [(hexDigit (n / 16)).val.toUInt8, (hexDigit (n % 16)).val.toUInt8] ∧
      fourHex? 0x30 0x30 (hexDigit (n / 16)).val.toUInt8 (hexDigit (n % 16)).val.toUInt8 =
        some n := by decide
  obtain ⟨hbytes, hvalue⟩ := hdigits _ h
  rw [hchar, ascii_append, hfront, ascii_ofList, hbytes]
  exact ⟨_, .code hvalue (by omega)⟩

/-- A character of a string is written so that it is read back. -/
theorem exists_spells_escapeChar (c : Char) :
    ∃ us, Spells (ascii (escapeChar c)) us (String.utf8EncodeChar c) := by
  unfold escapeChar
  split
  · exact exists_spells_escape (e := 0x22) rfl rfl (by decide) (by decide)
  · exact exists_spells_escape (e := 0x5C) rfl rfl (by decide) (by decide)
  · exact exists_spells_escape (e := 0x6E) rfl rfl (by decide) (by decide)
  · exact exists_spells_escape (e := 0x72) rfl rfl (by decide) (by decide)
  · exact exists_spells_escape (e := 0x74) rfl rfl (by decide) (by decide)
  · exact exists_spells_escape (e := 0x62) rfl rfl (by decide) (by decide)
  · exact exists_spells_escape (e := 0x66) rfl rfl (by decide) (by decide)
  · rename_i hquote hbackslash _ _ _ _ _
    split
    · rename_i hcontrol
      exact exists_spells_control hcontrol
    · rename_i hcontrol
      rw [ascii_singleton]
      -- below 128 the byte is the character itself; above, no byte is as low as the special ones
      refine ⟨_, .plain fun b hb => ?_⟩
      by_cases hascii : c.toNat < 128
      · rw [Text.utf8EncodeChar_of_lt hascii, List.mem_singleton] at hb
        have hnat : b.toNat = c.toNat := hb ▸ Text.toNat_byte hascii
        refine ⟨?_, ?_, ?_⟩
        · rintro rfl
          exact hquote (Char.toNat_inj.mp hnat.symm)
        · rintro rfl
          exact hbackslash (Char.toNat_inj.mp hnat.symm)
        · rw [UInt8.lt_iff_toNat_lt, hnat]
          exact hcontrol
      · have hhigh := Text.le_of_mem_utf8EncodeChar (Nat.le_of_not_lt hascii) b hb
        refine ⟨?_, ?_, ?_⟩
        · rintro rfl
          exact absurd hhigh (by decide)
        · rintro rfl
          exact absurd hhigh (by decide)
        · rw [UInt8.lt_iff_toNat_lt]
          exact Nat.not_lt.mpr (Nat.le_trans (by decide) hhigh)

/-- **A string in quotes** is read back. -/
theorem exists_units?_quoted (s : String) : ∃ us bs, ascii (quoted s) = 0x22 :: bs ∧
    (∀ rest, units? (bs ++ rest) = some (us, rest)) ∧ stringOfUnits? us = some s := by
  have hchars : ∀ cs : List Char, ∃ us,
      Spells (cs.flatMap fun c => ascii (escapeChar c)) us (cs.flatMap String.utf8EncodeChar) := by
    intro cs
    induction cs with
    | nil => exact ⟨[], .nil⟩
    | cons c cs ih =>
      obtain ⟨us, hus⟩ := exists_spells_escapeChar c
      obtain ⟨vs, hvs⟩ := ih
      exact ⟨us ++ vs, hus.append hvs⟩
  obtain ⟨us, hus⟩ := hchars s.toList
  have hquote : ascii "\"" = [0x22] := ascii_of_toList rfl
  have hjoin : ascii (String.join (s.toList.map escapeChar)) =
      s.toList.flatMap fun c => ascii (escapeChar c) := by
    induction s.toList with
    | nil =>
      rw [List.map_nil, String.join_nil]
      exact ascii_of_toList rfl
    | cons c cs ih => rw [List.map_cons, String.join_cons, ascii_append, ih, List.flatMap_cons]
  refine ⟨us, (s.toList.flatMap fun c => ascii (escapeChar c)) ++ [0x22], ?_, ?_, ?_⟩
  · rw [quoted, ascii_append, ascii_append, hquote, hjoin]
    rfl
  · intro rest
    rw [List.append_assoc, hus.1]
    show (units? (0x22 :: rest)).map _ = _
    rw [units?, Option.map_some, List.append_nil]
  · have htext := hus.2 []
    rw [List.append_nil] at htext
    have hnil : unitBytes? [] = some [] := by rw [unitBytes?]
    rw [stringOfUnits?, htext, hnil, Option.map_some, List.append_nil, Option.bind_some,
      Text.fromUTF8?_eq_some_iff, Text.toUTF8_toList_eq]

end Reader

open Reader

/-! ### Values -/

/-- A value of which nothing is lost in writing: whole numbers fit a word, and there is no float and
nothing unreadable. -/
inductive IsExact : Json → Prop
  | null : IsExact .null
  | bool (b : Bool) : IsExact (.bool b)
  | int {n : Int} : InWords n → IsExact (.int n)
  | string (s : String) : IsExact (.string s)
  | array {items : List Json} : (∀ j ∈ items, IsExact j) → IsExact (.array items)
  | object {fields : List (String × Json)} :
      (∀ f ∈ fields, IsExact f.2) → IsExact (.object fields)

/-- The bytes of a value that is written on one line. -/
def written (j : Json) : List UInt8 := ascii j.compact

/-- The bytes of the members of an array. -/
def writtenItems (items : List Json) : List UInt8 := ascii (",".intercalate (compactItems items))

/-- The bytes of the fields of an object. -/
def writtenFields (fields : List (String × Json)) : List UInt8 :=
  ascii (",".intercalate (compactFields fields))

theorem written_array (items : List Json) :
    written (.array items) = 0x5B :: writtenItems items ++ [0x5D] := by
  rw [written, compact, ascii_append, ascii_append, ascii_of_toList (s := "[") rfl,
    ascii_of_toList (s := "]") rfl]
  rfl

theorem written_object (fields : List (String × Json)) :
    written (.object fields) = 0x7B :: writtenFields fields ++ [0x7D] := by
  rw [written, compact, ascii_append, ascii_append, ascii_of_toList (s := "\x7b") rfl,
    ascii_of_toList (s := "\x7d") rfl]
  rfl

theorem writtenItems_singleton (j : Json) : writtenItems [j] = written j := by
  rw [writtenItems, compactItems, compactItems, String.intercalate_singleton]
  rfl

theorem writtenItems_cons_cons (j k : Json) (items : List Json) :
    writtenItems (j :: k :: items) = written j ++ 0x2C :: writtenItems (k :: items) := by
  rw [writtenItems, compactItems, compactItems, String.intercalate_cons_cons, ascii_append,
    ascii_append, ascii_of_toList (s := ",") rfl, ← compactItems, List.append_assoc]
  rfl

theorem writtenFields_singleton (f : String × Json) :
    writtenFields [f] = ascii (quoted f.1) ++ 0x3A :: written f.2 := by
  rw [writtenFields, compactFields, compactFields, String.intercalate_singleton, ascii_append,
    ascii_append, ascii_of_toList (s := ":") rfl, List.append_assoc]
  rfl

theorem writtenFields_cons_cons (f g : String × Json) (fields : List (String × Json)) :
    writtenFields (f :: g :: fields) =
      ascii (quoted f.1) ++ 0x3A :: (written f.2 ++ 0x2C :: writtenFields (g :: fields)) := by
  rw [writtenFields, compactFields, compactFields, String.intercalate_cons_cons, ascii_append,
    ascii_append, ascii_append, ascii_append, ascii_of_toList (s := ":") rfl,
    ascii_of_toList (s := ",") rfl, ← compactFields, List.append_assoc, List.append_assoc,
    List.append_assoc]
  rfl

/-- What is written begins neither with white space nor like the end of an array. -/
theorem exists_head_of_isExact {j : Json} (h : IsExact j) :
    ∃ b bs, written j = b :: bs ∧ isSpace b = false ∧ b ≠ 0x5D := by
  cases h with
  | null => exact ⟨0x6E, _, ascii_of_toList rfl, rfl, by decide⟩
  | bool b =>
    cases b with
    | true => exact ⟨0x74, _, ascii_of_toList rfl, rfl, by decide⟩
    | false => exact ⟨0x66, _, ascii_of_toList rfl, rfl, by decide⟩
  | @int n hn =>
    obtain ⟨b, bs, hbs, hb⟩ := exists_ascii_intText n
    refine ⟨b, bs, hbs, ?_, ?_⟩
    · rw [← Bool.not_eq_true]
      exact fun hspace => (not_isSpace hspace).1 hb
    · rintro rfl
      revert hb
      decide
  | string s =>
    obtain ⟨us, bs, hbs, -⟩ := exists_units?_quoted s
    exact ⟨0x22, bs, hbs, rfl, by decide⟩
  | array h => exact ⟨0x5B, _, written_array _, rfl, by decide⟩
  | object h => exact ⟨0x7B, _, written_object _, rfl, by decide⟩

theorem length_written_pos {j : Json} (h : IsExact j) : 0 < (written j).length := by
  obtain ⟨b, bs, hbs, -⟩ := exists_head_of_isExact h
  rw [hbs]
  exact Nat.succ_pos _

theorem exists_head_writtenItems {j : Json} (h : IsExact j) (items : List Json) :
    ∃ b bs, writtenItems (j :: items) = b :: bs ∧ isSpace b = false ∧ b ≠ 0x5D := by
  obtain ⟨b, bs, hbs, hb⟩ := exists_head_of_isExact h
  cases items with
  | nil => exact ⟨b, bs, by rw [writtenItems_singleton, hbs], hb⟩
  | cons k items => exact ⟨b, _, by rw [writtenItems_cons_cons, hbs, List.cons_append], hb⟩

theorem exists_writtenFields (f : String × Json) (fields : List (String × Json)) :
    ∃ bs, writtenFields (f :: fields) = 0x22 :: bs := by
  obtain ⟨us, bs, hbs, -⟩ := exists_units?_quoted f.1
  cases fields with
  | nil => exact ⟨_, by rw [writtenFields_singleton, hbs, List.cons_append]⟩
  | cons g fields => exact ⟨_, by rw [writtenFields_cons_cons, hbs, List.cons_append]⟩

namespace Reader

/-! ### One step of the reader -/

theorem skipSpace_cons {b : UInt8} (h : isSpace b = false) (bs : List UInt8) :
    skipSpace (b :: bs) = b :: bs := by
  rw [skipSpace, List.dropWhile_cons, h]
  rfl

theorem endsNumber_cons {b : UInt8} (h : continuesNumber b = false) (rest : List UInt8) :
    EndsNumber (b :: rest) := by
  intro c hc
  rwa [← Option.some.inj hc]

section Steps

variable {fuel : Nat}

theorem value?_null (rest : List UInt8) :
    value? (fuel + 1) (written .null ++ rest) = some (.null, rest) := by
  have hname : ascii "null" = [0x6E, 0x75, 0x6C, 0x6C] := ascii_of_toList rfl
  rw [written, compact, hname]
  show value? (fuel + 1) (0x6E :: 0x75 :: 0x6C :: 0x6C :: rest) = _
  rw [value?, skipSpace_cons rfl]
  simp [isDigit, hname, literal?]

theorem value?_bool (b : Bool) (rest : List UInt8) :
    value? (fuel + 1) (written (.bool b) ++ rest) = some (.bool b, rest) := by
  have hnull : ascii "null" = [0x6E, 0x75, 0x6C, 0x6C] := ascii_of_toList rfl
  have htrue : ascii "true" = [0x74, 0x72, 0x75, 0x65] := ascii_of_toList rfl
  have hfalse : ascii "false" = [0x66, 0x61, 0x6C, 0x73, 0x65] := ascii_of_toList rfl
  cases b with
  | true =>
    have hwritten : written (.bool true) = [0x74, 0x72, 0x75, 0x65] := htrue
    rw [hwritten]
    show value? (fuel + 1) (0x74 :: 0x72 :: 0x75 :: 0x65 :: rest) = _
    rw [value?, skipSpace_cons rfl]
    simp [isDigit, hnull, htrue, literal?]
  | false =>
    have hwritten : written (.bool false) = [0x66, 0x61, 0x6C, 0x73, 0x65] := hfalse
    rw [hwritten]
    show value? (fuel + 1) (0x66 :: 0x61 :: 0x6C :: 0x73 :: 0x65 :: rest) = _
    rw [value?, skipSpace_cons rfl]
    simp [isDigit, hnull, htrue, hfalse, literal?]

theorem value?_int {n : Int} (h : InWords n) {rest : List UInt8} (hrest : EndsNumber rest) :
    value? (fuel + 1) (written (.int n) ++ rest) = some (.int n, rest) := by
  obtain ⟨b, bs, hbs, hspace, -⟩ := exists_head_of_isExact (.int h)
  refine value?_int_iff.mpr ⟨h, ?_, hrest⟩
  rw [hbs, List.cons_append, skipSpace_cons hspace, ← List.cons_append, ← hbs]
  rfl

theorem value?_string (s : String) (rest : List UInt8) :
    value? (fuel + 1) (written (.string s) ++ rest) = some (.string s, rest) := by
  obtain ⟨us, bs, hbs, hunits, htext⟩ := exists_units?_quoted s
  have hwritten : written (.string s) = 0x22 :: bs := hbs
  rw [hwritten, List.cons_append, value?, skipSpace_cons rfl]
  simp [hunits, htext]

theorem value?_array_nil (rest : List UInt8) :
    value? (fuel + 1) (written (.array []) ++ rest) = some (.array [], rest) := by
  have hwritten : written (.array []) = [0x5B, 0x5D] := ascii_of_toList rfl
  rw [hwritten]
  show value? (fuel + 1) (0x5B :: 0x5D :: rest) = _
  rw [value?, skipSpace_cons rfl]
  rfl

theorem value?_object_nil (rest : List UInt8) :
    value? (fuel + 1) (written (.object []) ++ rest) = some (.object [], rest) := by
  have hwritten : written (.object []) = [0x7B, 0x7D] := ascii_of_toList rfl
  rw [hwritten]
  show value? (fuel + 1) (0x7B :: 0x7D :: rest) = _
  rw [value?, skipSpace_cons rfl]
  rfl

theorem value?_array_cons {j : Json} {items : List Json} (hj : IsExact j) {rest : List UInt8}
    (h : items? fuel (writtenItems (j :: items) ++ 0x5D :: rest) = some (j :: items, rest)) :
    value? (fuel + 1) (written (.array (j :: items)) ++ rest) =
      some (.array (j :: items), rest) := by
  obtain ⟨b, bs, hbs, hspace, hclose⟩ := exists_head_writtenItems hj items
  rw [hbs] at h
  rw [written_array, hbs, List.append_assoc]
  show value? (fuel + 1) (0x5B :: b :: (bs ++ 0x5D :: rest)) = _
  rw [value?, skipSpace_cons rfl]
  simp only [skipSpace_cons hspace]
  split
  · rename_i heq
    exact absurd (List.head_eq_of_cons_eq heq) hclose
  · rw [← List.cons_append, h]
    rfl

theorem fieldsOf?_map (fields : List (String × Json)) :
    fieldsOf? (fields.map fun f => (some f.1, f.2)) = some fields := by
  induction fields with
  | nil => rfl
  | cons f fields ih =>
    rw [fieldsOf?] at ih ⊢
    rw [List.map_cons, List.mapM_cons, ih]
    rfl

theorem value?_object_cons {f : String × Json} {fields : List (String × Json)} {rest : List UInt8}
    (h : fields? fuel (writtenFields (f :: fields) ++ 0x7D :: rest) =
      some ((f :: fields).map fun f => (some f.1, f.2), rest)) :
    value? (fuel + 1) (written (.object (f :: fields)) ++ rest) =
      some (.object (f :: fields), rest) := by
  obtain ⟨bs, hbs⟩ := exists_writtenFields f fields
  rw [hbs, List.cons_append] at h
  rw [written_object, hbs, List.append_assoc]
  show value? (fuel + 1) (0x7B :: 0x22 :: (bs ++ 0x7D :: rest)) = _
  rw [value?, skipSpace_cons rfl]
  simp only [skipSpace_cons (b := 0x22) rfl]
  split
  · rename_i heq
    cases List.head_eq_of_cons_eq heq
  · rw [h, Option.bind_eq_bind, Option.bind_some, fieldsOf?_map]
    rfl

theorem items?_last {j : Json} {rest : List UInt8}
    (h : value? fuel (written j ++ 0x5D :: rest) = some (j, 0x5D :: rest)) :
    items? (fuel + 1) (writtenItems [j] ++ 0x5D :: rest) = some ([j], rest) := by
  rw [writtenItems_singleton, items?, h, Option.bind_eq_bind, Option.bind_some]
  simp only [skipSpace_cons (b := 0x5D) rfl]

theorem items?_cons {j k : Json} {items : List Json} {rest : List UInt8}
    (hfirst : value? fuel (written j ++ 0x2C :: (writtenItems (k :: items) ++ 0x5D :: rest)) =
      some (j, 0x2C :: (writtenItems (k :: items) ++ 0x5D :: rest)))
    (hlater : items? fuel (writtenItems (k :: items) ++ 0x5D :: rest) = some (k :: items, rest)) :
    items? (fuel + 1) (writtenItems (j :: k :: items) ++ 0x5D :: rest) =
      some (j :: k :: items, rest) := by
  rw [writtenItems_cons_cons, List.append_assoc, List.cons_append, items?, hfirst,
    Option.bind_eq_bind, Option.bind_some]
  simp only [skipSpace_cons (b := 0x2C) rfl]
  rw [hlater]
  rfl

theorem fields?_last {f : String × Json} {rest : List UInt8}
    (h : value? fuel (written f.2 ++ 0x7D :: rest) = some (f.2, 0x7D :: rest)) :
    fields? (fuel + 1) (writtenFields [f] ++ 0x7D :: rest) = some ([(some f.1, f.2)], rest) := by
  obtain ⟨us, bs, hbs, hunits, htext⟩ := exists_units?_quoted f.1
  rw [writtenFields_singleton, List.append_assoc, hbs, List.cons_append, List.cons_append, fields?,
    skipSpace_cons rfl]
  simp only [hunits, htext, h, Option.bind_eq_bind, Option.bind_some,
    skipSpace_cons (b := 0x3A) rfl, skipSpace_cons (b := 0x7D) rfl]

theorem fields?_cons {f g : String × Json} {fields : List (String × Json)}
    {read : List (Option String × Json)} {rest : List UInt8}
    (hfirst : value? fuel (written f.2 ++ 0x2C :: (writtenFields (g :: fields) ++ 0x7D :: rest)) =
      some (f.2, 0x2C :: (writtenFields (g :: fields) ++ 0x7D :: rest)))
    (hlater : fields? fuel (writtenFields (g :: fields) ++ 0x7D :: rest) = some (read, rest)) :
    fields? (fuel + 1) (writtenFields (f :: g :: fields) ++ 0x7D :: rest) =
      some ((some f.1, f.2) :: read, rest) := by
  obtain ⟨us, bs, hbs, hunits, htext⟩ := exists_units?_quoted f.1
  rw [writtenFields_cons_cons, List.append_assoc, hbs, List.cons_append, List.cons_append,
    List.append_assoc, List.cons_append, fields?, skipSpace_cons rfl]
  simp only [hunits, htext, hfirst, hlater, Option.bind_eq_bind, Option.bind_some,
    skipSpace_cons (b := 0x3A) rfl, skipSpace_cons (b := 0x2C) rfl]
  rfl

end Steps

/-! ### Enough fuel -/

/-- What is written is read back with two steps for each byte. A value is one step, and so is each
member of an array or an object; the comma behind a member pays for the step to the next one. -/
structure ReadsBack (fuel : Nat) : Prop where
  value : ∀ j rest, IsExact j → EndsNumber rest → 2 * (written j).length ≤ fuel →
    value? fuel (written j ++ rest) = some (j, rest)
  items : ∀ j items rest, (∀ k ∈ j :: items, IsExact k) →
    2 * (writtenItems (j :: items)).length + 1 ≤ fuel →
    items? fuel (writtenItems (j :: items) ++ 0x5D :: rest) = some (j :: items, rest)
  fields : ∀ f fields rest, (∀ g ∈ f :: fields, IsExact g.2) →
    2 * (writtenFields (f :: fields)).length + 1 ≤ fuel →
    fields? fuel (writtenFields (f :: fields) ++ 0x7D :: rest) =
      some ((f :: fields).map fun g => (some g.1, g.2), rest)

theorem ReadsBack.zero : ReadsBack 0 where
  value j rest hj hrest hfuel := by
    have := length_written_pos hj
    omega
  items j items rest hitems hfuel := by omega
  fields f fields rest hfields hfuel := by omega

theorem ReadsBack.succ {fuel : Nat} (ih : ReadsBack fuel) : ReadsBack (fuel + 1) where
  value j rest hj hrest hfuel := by
    cases hj with
    | null => exact value?_null rest
    | bool b => exact value?_bool b rest
    | int hn => exact value?_int hn hrest
    | string s => exact value?_string s rest
    | @array items hitems =>
      cases items with
      | nil => exact value?_array_nil rest
      | cons j items =>
        rw [written_array, List.length_append, List.length_cons, List.length_singleton] at hfuel
        exact value?_array_cons (hitems j List.mem_cons_self)
          (ih.items j items rest hitems (by omega))
    | @object fields hfields =>
      cases fields with
      | nil => exact value?_object_nil rest
      | cons f fields =>
        rw [written_object, List.length_append, List.length_cons, List.length_singleton] at hfuel
        exact value?_object_cons (ih.fields f fields rest hfields (by omega))
  items j items rest hitems hfuel := by
    have hj := hitems j List.mem_cons_self
    cases items with
    | nil =>
      rw [writtenItems_singleton] at hfuel
      exact items?_last (ih.value j _ hj (endsNumber_cons rfl rest) (by omega))
    | cons k items =>
      rw [writtenItems_cons_cons, List.length_append, List.length_cons] at hfuel
      exact items?_cons (ih.value j _ hj (endsNumber_cons rfl _) (by omega))
        (ih.items k items rest (fun l hl => hitems l (List.mem_cons_of_mem j hl)) (by omega))
  fields f fields rest hfields hfuel := by
    have hf := hfields f List.mem_cons_self
    cases fields with
    | nil =>
      rw [writtenFields_singleton, List.length_append, List.length_cons] at hfuel
      exact fields?_last (ih.value f.2 _ hf (endsNumber_cons rfl rest) (by omega))
    | cons g fields =>
      rw [writtenFields_cons_cons, List.length_append, List.length_cons, List.length_append,
        List.length_cons] at hfuel
      exact fields?_cons (ih.value f.2 _ hf (endsNumber_cons rfl _) (by omega))
        (ih.fields g fields rest (fun h hh => hfields h (List.mem_cons_of_mem f hh)) (by omega))

theorem readsBack (fuel : Nat) : ReadsBack fuel := by
  induction fuel with
  | zero => exact .zero
  | succ fuel ih => exact ih.succ

end Reader

/-- **What is written is read back**, as long as nothing is lost in writing. -/
theorem ofBytes?_written {j : Json} (h : IsExact j) : ofBytes? (written j) = some j := by
  have hread := (Reader.readsBack (2 * (written j).length + 2)).value j [] h
    (fun _ => nofun) (Nat.le_add_right _ 2)
  rw [List.append_nil] at hread
  rw [ofBytes?, hread]
  rfl

end GaleraHealth.Json
