import GaleraHealth.Net.Host
import GaleraHealth.Proofs.EncodedText
import GaleraHealth.Proofs.Numerals
import GaleraHealth.Proofs.TextLines

/-!
# The characters of a host

A host is read from a text in two steps: escapes are resolved, and what they leave is brought into
its normal form. Neither takes away a character that delimits other parts of a URL, whatever the
tables of Unicode say. So a text with a slash, an at sign or a colon in it is no host, apart from
the colons of an IPv6 literal in brackets.

* `IsMark`: the characters that delimit the parts of a URL.
* `mem_of_decoded`: a mark is still there when escapes are resolved.
* `Domain.not_mem_of_normal?`: a name with a normal form has no marks.
* `Ipv6.isLiteralChar_of_ofChars?`: an IPv6 literal has digits, colons and points only.
* `Host.read_chars`: a text that is a host is a literal in brackets, or has no marks.
-/

namespace GaleraHealth.Net

/-! ### Marks -/

/-- A character that delimits the parts of a URL. -/
def IsMark (c : Char) : Prop := Domain.isDelimiter c = true

namespace IsMark

theorem of_mem {c : Char} (h : c ∈ "/\\?#@:[]".toList) : IsMark c := List.contains_iff_mem.mpr h

theorem mem {c : Char} (h : IsMark c) : c ∈ "/\\?#@:[]".toList := List.contains_iff_mem.mp h

theorem lt {c : Char} (h : IsMark c) : c.toNat < 128 := by
  have hall : ∀ d ∈ "/\\?#@:[]".toList, d.toNat < 128 := by simp
  exact hall c h.mem

/-- A mark is part of no escape. -/
theorem byte {c : Char} (h : IsMark c) :
    Escape.value? c.val.toUInt8 = none ∧ c.val.toUInt8 ≠ 37 := by
  have hall : "/\\?#@:[]".toList.all (fun d =>
      (Escape.value? d.val.toUInt8).isNone && d.val.toUInt8 != 37) = true := by
    decide +kernel
  have hc := List.all_eq_true.mp hall c h.mem
  rw [Bool.and_eq_true, Option.isNone_iff_eq_none, bne_iff_ne] at hc
  exact hc

end IsMark

/-! ### Bytes -/

/-- The byte of a character of ASCII stands for nothing else in a text. -/
theorem mem_of_mem_utf8 {c : Char} {cs : List Char} (hc : c.toNat < 128)
    (h : c.val.toUInt8 ∈ cs.flatMap String.utf8EncodeChar) : c ∈ cs := by
  obtain ⟨d, hd, hbyte⟩ := List.mem_flatMap.mp h
  by_cases hascii : d.toNat < 128
  · rw [Text.utf8EncodeChar_of_lt hascii, List.mem_singleton] at hbyte
    have hnat : c.toNat = d.toNat := by
      rw [← Text.toNat_byte hc, ← Text.toNat_byte hascii, hbyte]
    rw [Char.toNat_inj.mp hnat]
    exact hd
  · have hhigh := Text.le_of_mem_utf8EncodeChar (Nat.le_of_not_lt hascii) _ hbyte
    rw [Text.toNat_byte hc] at hhigh
    omega

/-- A byte that is part of no escape is left when escapes are resolved. -/
theorem mem_decode {b : UInt8} (hvalue : Escape.value? b = none) (hescape : b ≠ 37)
    {bs : List UInt8} (h : b ∈ bs) : b ∈ Escape.decode bs := by
  fun_induction Escape.decode bs with
  | case1 => exact h
  | case2 c => exact h
  | case3 c d => exact h
  | case4 x c d rest high low hsecond hfirst ih =>
    -- an escape: the byte is neither its percent sign nor one of its digits
    have hx : x = 37 := by
      by_contra hx
      rw [dif_neg hx] at hfirst
      cases hfirst
    rw [dif_pos hx] at hfirst
    simp only [List.mem_cons] at h
    rcases h with rfl | rfl | rfl | h
    · exact absurd hx hescape
    · rw [hvalue] at hfirst
      cases hfirst
    · rw [hvalue] at hsecond
      cases hsecond
    · exact List.mem_cons_of_mem _ (ih h)
  | case5 x c d rest hno ih =>
    rcases List.mem_cons.mp h with rfl | h
    · exact List.mem_cons_self
    · exact List.mem_cons_of_mem _ (ih h)

/-- A mark in a text is in what its bytes say once escapes are resolved. -/
theorem mem_of_decoded {c : Char} (hc : IsMark c) {cs : List Char} {text : String}
    (htext : String.fromUTF8? ⟨(Escape.decode (cs.flatMap String.utf8EncodeChar)).toArray⟩ =
      some text) (h : c ∈ cs) : c ∈ text.toList := by
  have hascii := hc.lt
  have hbyte : c.val.toUInt8 ∈ cs.flatMap String.utf8EncodeChar := by
    refine List.mem_flatMap.mpr ⟨c, h, ?_⟩
    rw [Text.utf8EncodeChar_of_lt hascii]
    exact List.mem_singleton_self _
  have hdecoded := mem_decode hc.byte.1 hc.byte.2 hbyte
  rw [Text.fromUTF8?_eq_some_iff.mp htext, Text.toUTF8_toList_eq] at hdecoded
  exact mem_of_mem_utf8 hascii hdecoded

/-- A name with a normal form has no marks. -/
theorem Domain.not_mem_of_normal? [NameTable] {cs name : List Char}
    (h : Domain.normal? cs = some name) : ∀ c ∈ cs, ¬ IsMark c := by
  intro c hmem hc
  rw [Domain.normal?, if_pos (List.any_eq_true.mpr ⟨c, hmem, hc⟩)] at h
  cases h

/-! ### Literals -/

namespace Ipv6

/-- A character of an IPv6 literal. -/
def IsLiteralChar (c : Char) : Prop :=
  (Decimal.digitValue? 16 c).isSome = true ∨ c = ':' ∨ c = '.'

/-- Apart from the colon, the characters that delimit the parts of a URL are in no literal. -/
theorem IsLiteralChar.not_mem {c : Char} (h : IsLiteralChar c) : c ∉ "/\\?#@[]".toList := by
  have hall : ∀ d ∈ "/\\?#@[]".toList,
      ¬ ((Decimal.digitValue? 16 d).isSome = true ∨ d = ':' ∨ d = '.') := by
    simp [Decimal.digitValue?]
  exact fun hc => hall c hc h

/-- An IPv4 literal has digits and points only. -/
theorem isDigit_of_ipv4 {x : Ipv4} {cs : List Char} (h : Ipv4.ofChars? cs = some x) :
    ∀ c ∈ cs, c.isDigit = true ∨ c = '.' := by
  have hbyte : ∀ {cs : List Char} {b : UInt8}, Ipv4.byte? cs = some b →
      ∀ c ∈ cs, c.isDigit = true := by
    intro cs b h
    unfold Ipv4.byte? at h
    simp only [Option.ite_none_right_eq_some, Option.bind_eq_some_iff] at h
    obtain ⟨-, n, hn, -⟩ := h
    exact (Decimal.natural?_eq_some_iff.mp hn).digits
  intro c hc
  by_cases hpoint : c = '.'
  · exact .inr hpoint
  · obtain ⟨p, hp, hcp⟩ := Text.exists_piece_of_mem hpoint hc
    unfold Ipv4.ofChars? at h
    split at h
    · rename_i p₁ p₂ p₃ p₄ hpieces
      simp only [Option.bind_eq_bind, Option.bind_eq_some_iff] at h
      obtain ⟨b₁, h₁, b₂, h₂, b₃, h₃, b₄, h₄, -⟩ := h
      rw [hpieces] at hp
      simp only [List.mem_cons, List.not_mem_nil, or_false] at hp
      rcases hp with rfl | rfl | rfl | rfl
      · exact .inl (hbyte h₁ c hcp)
      · exact .inl (hbyte h₂ c hcp)
      · exact .inl (hbyte h₃ c hcp)
      · exact .inl (hbyte h₄ c hcp)
    · cases h

theorem isLiteralChar_of_ipv4 {x : Ipv4} {cs : List Char} (h : Ipv4.ofChars? cs = some x) :
    ∀ c ∈ cs, IsLiteralChar c := by
  intro c hc
  rcases isDigit_of_ipv4 h c hc with hdigit | hpoint
  · exact .inl (Decimal.digitValue?_isSome_of_isDigit (by decide) hdigit)
  · exact .inr (.inr hpoint)

theorem isLiteralChar_of_group? {g : UInt16} {cs : List Char} (h : group? cs = some g) :
    ∀ c ∈ cs, IsLiteralChar c := by
  unfold group? at h
  simp only [Option.ite_none_right_eq_some, Option.map_eq_some_iff] at h
  obtain ⟨-, n, hn, -⟩ := h
  intro c hc
  exact .inl (Decimal.digitValue?_isSome hn c hc)

theorem isLiteralChar_of_groupsOfPieces? {ps : List (List Char)} {gs : List UInt16}
    (h : groupsOfPieces? ps = some gs) : ∀ p ∈ ps, ∀ c ∈ p, IsLiteralChar c := by
  fun_induction groupsOfPieces? ps generalizing gs with
  | case1 =>
    intro p hp
    cases hp
  | case2 last =>
    intro p hp
    rw [List.mem_singleton.mp hp]
    rcases Option.or_eq_some_iff.mp h with h | ⟨-, h⟩
    · obtain ⟨x, hx, -⟩ := Option.map_eq_some_iff.mp h
      exact isLiteralChar_of_ipv4 hx
    · obtain ⟨g, hg, -⟩ := Option.map_eq_some_iff.mp h
      exact isLiteralChar_of_group? hg
  | case3 q qs hne ih =>
    simp only [Option.bind_eq_bind, Option.bind_eq_some_iff] at h
    obtain ⟨g, hg, rest, hrest, -⟩ := h
    intro p hp
    rcases List.mem_cons.mp hp with rfl | hp
    · exact isLiteralChar_of_group? hg
    · exact ih hrest p hp

theorem isLiteralChar_of_groups? {cs : List Char} {gs : List UInt16} (h : groups? cs = some gs) :
    ∀ c ∈ cs, IsLiteralChar c := by
  unfold groups? at h
  split at h
  · rename_i hempty
    rw [List.isEmpty_iff.mp hempty]
    intro c hc
    cases hc
  · intro c hc
    by_cases hcolon : c = ':'
    · exact .inr (.inl hcolon)
    · obtain ⟨p, hp, hcp⟩ := Text.exists_piece_of_mem hcolon hc
      exact isLiteralChar_of_groupsOfPieces? h p hp c hcp

/-- An IPv6 literal has digits, colons and points only. -/
theorem isLiteralChar_of_ofChars? {x : Ipv6} {cs : List Char} (h : ofChars? cs = some x) :
    ∀ c ∈ cs, IsLiteralChar c := by
  unfold ofChars? at h
  split at h
  · obtain ⟨gs, hgs, -⟩ := Option.bind_eq_some_iff.mp h
    exact isLiteralChar_of_groups? hgs
  · rename_i front back hcut
    by_cases hfront : endsInIpv4 front = true
    · rw [if_pos hfront] at h
      cases h
    · rw [if_neg hfront] at h
      simp only [Option.bind_eq_bind, Option.bind_eq_some_iff] at h
      obtain ⟨f, hf, b, hb, -⟩ := h
      rw [Text.eq_of_cutAt? hcut]
      intro c hc
      rcases List.mem_append.mp hc with hc | hc
      · rcases List.mem_append.mp hc with hc | hc
        · exact isLiteralChar_of_groups? hf c hc
        · have hcolon : ∀ d ∈ "::".toList, d = ':' := by simp
          exact .inr (.inl (hcolon c hc))
      · exact isLiteralChar_of_groups? hb c hc

end Ipv6

namespace Host

/-- **The characters of a host.** A text that is read as a host is an IPv6 literal in brackets, or
it has no marks. -/
theorem read_chars [NameTable] {cs : List Char} {host : Host} (h : read cs = .ok host) :
    (∃ literal, cs = '[' :: literal ++ [']'] ∧ ∀ c ∈ literal, Ipv6.IsLiteralChar c) ∨
      ∀ c ∈ cs, ¬ IsMark c := by
  unfold read at h
  split at h
  · cases h
  · rename_i rest
    split at h
    · rename_i inside hrest
      have hliteral : ∃ x, Ipv6.ofChars? inside.reverse = some x := by
        cases hx : Ipv6.ofChars? inside.reverse with
        | none =>
          rw [hx] at h
          cases h
        | some x => exact ⟨x, rfl⟩
      obtain ⟨x, hx⟩ := hliteral
      refine .inl ⟨inside.reverse, ?_, Ipv6.isLiteralChar_of_ofChars? hx⟩
      have hsplit := congrArg List.reverse hrest
      rw [List.reverse_reverse, List.reverse_cons] at hsplit
      rw [hsplit]
      rfl
    · cases h
  · cases hname : name? cs with
    | none =>
      rw [hname] at h
      cases h
    | some name =>
      unfold name? at hname
      simp only [Option.bind_eq_bind, Option.bind_eq_some_iff] at hname
      obtain ⟨text, htext, hnormal⟩ := hname
      refine .inr ?_
      intro c hc hmark
      exact Domain.not_mem_of_normal? hnormal c (mem_of_decoded hmark htext hc) hmark

end Host

end GaleraHealth.Net
