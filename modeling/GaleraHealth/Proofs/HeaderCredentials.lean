import GaleraHealth.Http.BasicAuth
import GaleraHealth.Proofs.EncodedText
import GaleraHealth.Proofs.TrimmedText

/-!
# The credentials in a header

A header is taken apart in five steps: visible bytes, scheme, white space, base64, UTF-8, first
colon. What comes through all of them can be said at once.

* `ofJoined?_eq_some_iff`: the parts of a text at its first colon.
* `ofHeader?_eq_some_iff`: a header is read as some credentials exactly when it carries them.
* `carries_header_iff`: the header that a client sends carries the parts of its joined text.
-/

namespace GaleraHealth

namespace Credentials

/-! ### The first colon -/

/-- The parts of a text at its first colon. -/
theorem ofJoined?_eq_some_iff {cs : List Char} {c : Credentials} :
    ofJoined? cs = some c ↔
      cs = c.username.toList ++ ':' :: c.password.toList ∧ ':' ∉ c.username.toList := by
  have hother : ∀ {name : List Char}, ':' ∉ name → ∀ x ∈ name, (x != ':') = true := by
    intro name hname x hx
    rw [bne_iff_ne]
    rintro rfl
    exact hname hx
  rw [ofJoined?, List.span_eq_takeWhile_dropWhile]
  constructor
  · intro h
    have hparts := List.takeWhile_append_dropWhile (p := (· != ':')) (l := cs)
    match hrest : cs.dropWhile (· != ':') with
    | [] =>
      rw [hrest] at h
      cases h
    | d :: password =>
      have hd := List.head_dropWhile_not (· != ':') (l := cs) (by rw [hrest]; simp)
      simp only [hrest, List.head_cons, bne_eq_false_iff_eq] at hd
      subst hd
      rw [hrest] at h hparts
      obtain rfl := Option.some.inj h
      rw [String.toList_ofList, String.toList_ofList]
      refine ⟨hparts.symm, ?_⟩
      intro hmem
      have hcolon := List.mem_takeWhile_imp hmem
      rw [bne_self_eq_false] at hcolon
      cases hcolon
  · rintro ⟨rfl, hname⟩
    rw [List.takeWhile_append_of_pos (hother hname), List.dropWhile_append_of_pos (hother hname),
      List.takeWhile_cons_of_neg (by simp), List.dropWhile_cons_of_neg (by simp), List.append_nil]
    show some (Credentials.mk (String.ofList c.username.toList)
      (String.ofList c.password.toList)) = some c
    rw [String.ofList_toList, String.ofList_toList]

/-! ### The header -/

/-- A header carries credentials: it is the scheme and, up to white space around it, the base64
text of the user name, a colon and the password, where the first colon is that one. -/
def Carries (header : List UInt8) (c : Credentials) : Prop :=
  ∃ front back : List UInt8, ∃ text : String,
    header = scheme ++ (front ++ Base64.encode text.toUTF8.toList ++ back) ∧
      (∀ b ∈ front, isSpace b = true) ∧ (∀ b ∈ back, isSpace b = true) ∧
        text.toList = c.username.toList ++ ':' :: c.password.toList ∧ ':' ∉ c.username.toList

theorem scheme_eq : scheme = [66, 97, 115, 105, 99, 32] := by
  rw [scheme, Text.toList_eq_data]
  decide

theorem isVisible_of_isSpace {b : UInt8} (h : isSpace b = true) : isVisible b = true := by
  rw [isSpace, Bool.or_eq_true, beq_iff_eq, beq_iff_eq] at h
  obtain rfl | rfl := h
  · decide
  · decide

theorem symbol_plain : ∀ n < 64,
    isVisible (Base64.symbol n) = true ∧ isSpace (Base64.symbol n) = false := by
  decide

/-- Base64 is written in visible bytes, and without white space. -/
theorem encode_plain {b : UInt8} {xs : List UInt8} (h : b ∈ Base64.encode xs) :
    isVisible b = true ∧ isSpace b = false := by
  obtain rfl | ⟨n, hn, rfl⟩ := Base64.mem_encode h
  · decide
  · exact symbol_plain n hn

theorem isVisible_of_carries {header : List UInt8} {c : Credentials} (h : Carries header c) :
    ∀ b ∈ header, isVisible b = true := by
  obtain ⟨front, back, text, rfl, hfront, hback, -, -⟩ := h
  intro b hb
  rw [List.mem_append, List.mem_append, List.mem_append] at hb
  obtain hscheme | (hb | hb) | hb := hb
  · have hall : scheme.all isVisible = true := by
      rw [scheme_eq]
      decide
    exact List.all_eq_true.mp hall b hscheme
  · exact isVisible_of_isSpace (hfront b hb)
  · exact (encode_plain hb).1
  · exact isVisible_of_isSpace (hback b hb)

/-- **A header is read as some credentials exactly when it carries them.** -/
theorem ofHeader?_eq_some_iff {header : List UInt8} {c : Credentials} :
    ofHeader? header = some c ↔ Carries header c := by
  constructor
  · intro h
    rw [ofHeader?] at h
    by_cases hrefused : (!header.all isVisible || !scheme.isPrefixOf header) = true
    · rw [if_pos hrefused] at h
      cases h
    · rw [if_neg hrefused] at h
      rw [Bool.not_eq_true, Bool.or_eq_false_iff, Bool.not_eq_false', Bool.not_eq_false',
        List.isPrefixOf_iff_prefix] at hrefused
      obtain ⟨rest, rfl⟩ := hrefused.2
      rw [List.drop_left] at h
      obtain ⟨bytes, hbytes, h⟩ := Option.bind_eq_some_iff.mp h
      obtain ⟨text, htext, h⟩ := Option.bind_eq_some_iff.mp h
      rw [Text.fromUTF8?_eq_some_iff] at htext
      rw [Base64.decode?_eq_some_iff, Text.trimEnds_eq_iff (fun b hb => (encode_plain hb).2),
        htext] at hbytes
      obtain ⟨front, back, hrest, hfront, hback⟩ := hbytes
      exact ⟨front, back, text, by rw [hrest], hfront, hback, ofJoined?_eq_some_iff.mp h⟩
  · intro h
    have hvisible : header.all isVisible = true := List.all_eq_true.mpr (isVisible_of_carries h)
    obtain ⟨front, back, text, rfl, hfront, hback, hjoined⟩ := h
    have hprefix : scheme.isPrefixOf
        (scheme ++ (front ++ Base64.encode text.toUTF8.toList ++ back)) = true :=
      List.isPrefixOf_iff_prefix.mpr ⟨_, rfl⟩
    rw [ofHeader?, hvisible, hprefix, List.drop_left,
      Text.trimEnds_of_parts hfront (fun b hb => (encode_plain hb).2) hback,
      Base64.decode?_encode, if_neg (by decide)]
    show (String.fromUTF8? ⟨text.toUTF8.toList.toArray⟩).bind _ = some c
    rw [Text.fromUTF8?_eq_some_iff.mpr rfl]
    exact ofJoined?_eq_some_iff.mpr hjoined

/-- The header that a client sends has no white space to spare: it carries what its joined text is
split into at the first colon, and nothing else. -/
theorem carries_header_iff {sent c : Credentials} : Carries sent.header c ↔
    sent.joined.toList = c.username.toList ++ ':' :: c.password.toList ∧
      ':' ∉ c.username.toList := by
  constructor
  · rintro ⟨front, back, text, hheader, hfront, hback, hjoined⟩
    have hrow : front ++ Base64.encode text.toUTF8.toList ++ back =
        Base64.encode sent.joined.toUTF8.toList := (List.append_cancel_left hheader).symm
    have hplain : ∀ s : String, ∀ b ∈ Base64.encode s.toUTF8.toList, isSpace b = false :=
      fun s b hb => (encode_plain hb).2
    have hsame : Base64.encode sent.joined.toUTF8.toList = Base64.encode text.toUTF8.toList := by
      have htrimmed := Text.trimEnds_of_parts hfront (hplain text) hback
      rw [hrow, Text.trimEnds_of_plain (hplain sent.joined)] at htrimmed
      exact htrimmed
    rw [Base64.encode_inj, Text.toUTF8_toList_inj] at hsame
    rw [hsame]
    exact hjoined
  · intro h
    exact ⟨[], [], sent.joined, by rw [List.nil_append, List.append_nil]; rfl,
      List.forall_mem_nil _, List.forall_mem_nil _, h⟩

end Credentials

end GaleraHealth
