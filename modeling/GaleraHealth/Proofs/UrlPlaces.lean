import Mathlib.Data.List.TakeDrop
import Mathlib.Data.List.TakeWhile
import GaleraHealth.Net.Url
import GaleraHealth.Proofs.FallibleSteps
import GaleraHealth.Proofs.HostText
import GaleraHealth.Proofs.TrimmedText

/-!
# URLs of places

A place is a path on a port of a host. Its URL is put together as text and then read again, and it
is read as it was meant if the host has no character that ends a host in a URL. Each step of the
reading gets a lemma that says what it does to the text of such a place.

* `IsDelimiter`: the characters that end a host, or what may stand before it.
* `IsPlainPath`: a path that is read as it stands.
* `splitHost_cases`, `splitHost_of_read`: the colons at which a text is split into host and port.
* `read_place_eq_ok_iff`, `ofParts_eq_ok_iff`: without delimiters, a host makes a URL exactly when
  it has a normal form, and the URL is the place with that host, the port and the path.
* `not_isDelimiter_of_normalHost`: a host with a normal form has no delimiters.
-/

namespace GaleraHealth

namespace Net.Url

/-! ### The parts of a place -/

/-- A character that ends the host of a URL, or that ends a user name before it. -/
def IsDelimiter (c : Char) : Prop := c ∈ "/\\?#@".toList

instance : DecidablePred IsDelimiter := fun c => inferInstanceAs (Decidable (c ∈ "/\\?#@".toList))

/-- The normal form of a host. Tabs and line ends do not count in a URL. -/
def normalHost [NameTable] (host : String) : Except UrlFault Host :=
  Host.read ((hostText host).filter (!isIgnored ·))

/-- A path that is read as it stands. -/
structure IsPlainPath (path : List Char) : Prop where
  rooted : path.head? = some '/'
  visible : ∀ c ∈ path, 0x20 < c.toNat
  noQuery : '?' ∉ path
  noFragment : '#' ∉ path
  resolved : (readPath path).flatMap ('/' :: ·) = path

/-- The URL of a host in its normal form. -/
def place (scheme : Scheme) (host : Host) (port : UInt16) (path : List Char) : Url where
  scheme := scheme
  username := []
  password := []
  host := host
  ownPort := if port = scheme.port then none else some port
  path := readPath path
  query := none
  fragment := none

theorem port_place (scheme : Scheme) (host : Host) (port : UInt16) (path : List Char) :
    (place scheme host port path).port = port := by
  show (if port = scheme.port then none else some port).getD scheme.port = port
  by_cases h : port = scheme.port
  · rw [if_pos h, h]
    rfl
  · rw [if_neg h]
    rfl

/-! ### The text of a place, read part by part -/

theorem ne_of_isDigit {c d : Char} (hc : c.isDigit = true) (hd : d.isDigit = false) : c ≠ d := by
  rintro rfl
  rw [hc] at hd
  cases hd

theorem span_append {p : Char → Bool} {xs ys : List Char} (hxs : ∀ x ∈ xs, p x = true)
    (hys : ∀ y, ys.head? = some y → p y = false) : (xs ++ ys).span p = (xs, ys) := by
  obtain ⟨hfront, hback⟩ := Text.takeWhile_append_stop hxs hys
  rw [List.span_eq_takeWhile_dropWhile, hfront, hback]

theorem splitAt_of_notMem {mark : Char} {cs : List Char} (h : mark ∉ cs) :
    splitAt mark cs = (cs, none) := by
  have hspan : (cs ++ []).span (· != mark) = (cs, []) := by
    refine span_append ?_ (by simp)
    intro c hc
    exact bne_iff_ne.mpr (ne_of_mem_of_not_mem hc h)
  rw [List.append_nil] at hspan
  rw [splitAt, hspan]
  rfl

theorem splitUser_of_notMem {cs : List Char} (h : '@' ∉ cs) : splitUser cs = (none, cs) := by
  have hspan : (cs.reverse ++ []).span (· != '@') = (cs.reverse, []) := by
    refine span_append ?_ (by simp)
    intro c hc
    exact bne_iff_ne.mpr (ne_of_mem_of_not_mem (List.mem_reverse.mp hc) h)
  rw [List.append_nil] at hspan
  rw [splitUser, hspan]
  show (none, cs.reverse.reverse) = (none, cs)
  rw [List.reverse_reverse]

section Reading

variable {digits host path : List Char}

/-- What holds of the colon and of every digit holds of a port with its colon. -/
theorem forall_mem_port {p : Char → Prop} (hdigits : ∀ c ∈ digits, c.isDigit = true)
    (hcolon : p ':') (hdigit : ∀ c, c.isDigit = true → p c) : ∀ c ∈ ':' :: digits, p c := by
  intro c hc
  rcases List.mem_cons.mp hc with rfl | hc
  · exact hcolon
  · exact hdigit c (hdigits c hc)

/-- Of the text of a place only the host can lose what does not count. -/
theorem cleaned_place (hpath : IsPlainPath path) (hdigits : ∀ c ∈ digits, c.isDigit = true) :
    cleaned ("//".toList ++ host ++ ':' :: digits ++ path) =
      "//".toList ++ host.filter (!isIgnored ·) ++ ':' :: digits ++ path := by
  have hne : path ≠ [] := by
    rintro rfl
    cases hpath.rooted
  have hlast : ¬ (path.getLast hne).val ≤ 0x20 :=
    Nat.not_le_of_lt (hpath.visible _ (List.getLast_mem hne))
  have hdrop : ∀ xs : List Char, ((xs ++ path).reverse.dropWhile fun c => c.val ≤ 0x20) =
      (xs ++ path).reverse := by
    intro xs
    rw [← List.dropLast_append_getLast hne, ← List.append_assoc, List.reverse_append,
      List.reverse_singleton, List.singleton_append]
    exact List.dropWhile_cons_of_neg (by simpa using hlast)
  have hport : (':' :: digits).filter (!isIgnored ·) = ':' :: digits := by
    refine List.filter_eq_self.mpr (forall_mem_port hdigits rfl ?_)
    intro c hdigit
    simp [isIgnored, ne_of_isDigit hdigit]
  have hkept : path.filter (!isIgnored ·) = path := by
    refine List.filter_eq_self.mpr ?_
    intro c hc
    have hvisible := hpath.visible c hc
    have hne : ∀ d : Char, d.toNat ≤ 0x20 → c ≠ d := by
      rintro d hd rfl
      omega
    simp [isIgnored, hne]
  rw [cleaned, hdrop, List.reverse_reverse, List.filter_append, List.filter_append,
    List.filter_append, hport, hkept]
  rfl

/-- The part with the host ends where the path begins. -/
theorem authority_place (hpath : IsPlainPath path) (hdigits : ∀ c ∈ digits, c.isDigit = true)
    (hhost : ∀ c ∈ host, ¬ IsDelimiter c) :
    (("//".toList ++ host ++ ':' :: digits ++ path).dropWhile isSlash).span (!endsAuthority ·) =
      (host ++ ':' :: digits, path) := by
  have hport : ∀ c ∈ ':' :: digits, endsAuthority c = false := by
    refine forall_mem_port hdigits rfl ?_
    intro c hdigit
    simp [endsAuthority, isSlash, ne_of_isDigit hdigit]
  have hauthority : ∀ c ∈ host ++ ':' :: digits, endsAuthority c = false := by
    intro c hc
    rcases List.mem_append.mp hc with hc | hc
    · have hnot := hhost c hc
      simp only [IsDelimiter, String.reduceToList, List.mem_cons, List.not_mem_nil, or_false,
        not_or] at hnot
      simp [endsAuthority, isSlash, hnot]
    · exact hport c hc
  have hslashes : ("//".toList ++ host ++ ':' :: digits ++ path).dropWhile isSlash =
      host ++ ':' :: digits ++ path := by
    rw [List.append_assoc "//".toList]
    show (host ++ ':' :: digits ++ path).dropWhile isSlash = _
    cases hlist : host ++ ':' :: digits with
    | nil => simp at hlist
    | cons c rest =>
      have hc := hauthority c (by rw [hlist]; exact List.mem_cons_self)
      have hslash : isSlash c = false := by
        simp only [endsAuthority, Bool.or_eq_false_iff] at hc
        exact hc.1.1
      exact List.dropWhile_cons_of_neg (by simp [hslash])
  rw [hslashes]
  refine span_append ?_ ?_
  · intro c hc
    rw [hauthority c hc]
    rfl
  · intro c hc
    rw [hpath.rooted] at hc
    rw [← Option.some.inj hc]
    rfl

/-- No user name stands before the host. -/
theorem splitUser_place (hdigits : ∀ c ∈ digits, c.isDigit = true)
    (hhost : ∀ c ∈ host, ¬ IsDelimiter c) :
    splitUser (host ++ ':' :: digits) = (none, host ++ ':' :: digits) := by
  refine splitUser_of_notMem ?_
  intro h
  have hport : ∀ c ∈ ':' :: digits, c ≠ '@' :=
    forall_mem_port hdigits (by decide) fun c hdigit => ne_of_isDigit hdigit rfl
  rcases List.mem_append.mp h with h | h
  · exact hhost '@' h (by decide)
  · exact hport '@' h rfl

end Reading

/-- The digits of a port are read as that port. -/
theorem readPort_digits (scheme : Scheme) (port : UInt16) :
    readPort scheme (':' :: Nat.toDigits 10 port.toNat) =
      .ok (if port = scheme.port then none else some port) := by
  have hread := Decimal.natural?_toDigits port.toNat
  have hlt : ¬ 65535 < port.toNat := by
    have := port.toNat_lt
    omega
  have heq : port.toNat = scheme.port.toNat ↔ port = scheme.port := UInt16.toNat_inj
  cases hdigits : Nat.toDigits 10 port.toNat with
  | nil => exact absurd hdigits (Decimal.IsNatural.toDigits port.toNat).nonempty
  | cons d ds =>
    rw [hdigits] at hread
    simp only [readPort, hread, if_neg hlt, heq]
    by_cases h : port = scheme.port
    · rw [if_pos h, if_pos h]
    · rw [if_neg h, if_neg h, Nat.toUInt16_eq, UInt16.ofNat_toNat]

/-- A second colon makes what stands behind the first no port. -/
theorem readPort_colon (scheme : Scheme) (front back : List Char) :
    readPort scheme (':' :: (front ++ ':' :: back)) = .error .badPort := by
  have hnone : Decimal.natural? (front ++ ':' :: back) = none := by
    cases hread : Decimal.natural? (front ++ ':' :: back) with
    | none => rfl
    | some n =>
      have hcolon := (Decimal.natural?_eq_some_iff.mp hread).digits ':' (by simp)
      cases hcolon
  cases htext : front ++ ':' :: back with
  | nil => simp at htext
  | cons c cs =>
    rw [htext] at hnone
    simp only [readPort, hnone]

/-! ### The host and the port -/

section Splitting

variable {host digits : List Char}

/-- Whether the text behind a character is in brackets. -/
def insideAfter (inside : Bool) (c : Char) : Bool :=
  if c = '[' then true else if c = ']' then false else inside

theorem splitHost_cons {inside : Bool} {c : Char} (h : ¬ (c = ':' ∧ !inside)) (cs : List Char) :
    splitHost inside (c :: cs) =
      (c :: (splitHost (insideAfter inside c) cs).1, (splitHost (insideAfter inside c) cs).2) := by
  rw [splitHost, if_neg h]
  rfl

theorem splitHost_colon (cs : List Char) : splitHost false (':' :: cs) = ([], ':' :: cs) := by
  rw [splitHost, if_pos ⟨rfl, rfl⟩]

/-- A text without brackets is passed over, and so are its colons if it stands in brackets. -/
theorem splitHost_append {inside : Bool} {front : List Char}
    (h : ∀ c ∈ front, c ≠ '[' ∧ c ≠ ']' ∧ (c = ':' → inside = true)) (rest : List Char) :
    splitHost inside (front ++ rest) =
      (front ++ (splitHost inside rest).1, (splitHost inside rest).2) := by
  induction front with
  | nil => rfl
  | cons c front ih =>
    obtain ⟨hopen, hclose, hcolon⟩ := h c List.mem_cons_self
    have hstays : insideAfter inside c = inside := by
      rw [insideAfter, if_neg hopen, if_neg hclose]
    have hpass : ¬ (c = ':' ∧ !inside) := by
      rintro ⟨hc, hinside⟩
      rw [hcolon hc] at hinside
      cases hinside
    rw [List.cons_append, splitHost_cons hpass, hstays,
      ih fun d hd => h d (List.mem_cons_of_mem _ hd)]
    rfl

/-- Where a text is split into host and port: at the colon before the digits, at one before that,
or nowhere, if that colon is in brackets. -/
theorem splitHost_cases (inside : Bool) (host : List Char)
    (hdigits : ∀ c ∈ digits, c.isDigit = true) :
    splitHost inside (host ++ ':' :: digits) = (host, ':' :: digits) ∨
      (∃ front back, splitHost inside (host ++ ':' :: digits) =
        (front, ':' :: (back ++ ':' :: digits))) ∨
      splitHost inside (host ++ ':' :: digits) = (host ++ ':' :: digits, []) := by
  induction host generalizing inside with
  | nil =>
    cases inside with
    | false => exact .inl (splitHost_colon digits)
    | true =>
      have hinside : ∀ c ∈ ':' :: digits, c ≠ '[' ∧ c ≠ ']' ∧ (c = ':' → true = true) := by
        refine forall_mem_port hdigits (by decide) ?_
        intro c hdigit
        exact ⟨ne_of_isDigit hdigit rfl, ne_of_isDigit hdigit rfl, fun _ => rfl⟩
      have hall := splitHost_append hinside []
      rw [List.append_nil] at hall
      exact .inr (.inr (by rw [List.nil_append, hall, splitHost, List.append_nil]))
  | cons c host ih =>
    rw [List.cons_append]
    by_cases hc : c = ':' ∧ !inside
    · rw [splitHost, if_pos hc, hc.1]
      exact .inr (.inl ⟨[], host, rfl⟩)
    · rw [splitHost_cons hc]
      obtain h | ⟨front, back, h⟩ | h := ih (insideAfter inside c)
      · exact .inl (by rw [h])
      · exact .inr (.inl ⟨c :: front, back, by rw [h]⟩)
      · exact .inr (.inr (by rw [h]))

/-- A host is split from its port at the colon behind it. -/
theorem splitHost_of_read [NameTable] {name : Host} (h : Host.read host = .ok name) :
    splitHost false (host ++ ':' :: digits) = (host, ':' :: digits) := by
  obtain ⟨literal, rfl, hliteral⟩ | hmarks := Host.read_chars h
  · have hinside : ∀ c ∈ literal, c ≠ '[' ∧ c ≠ ']' ∧ (c = ':' → true = true) := by
      intro c hc
      have hnot := (hliteral c hc).not_mem
      refine ⟨?_, ?_, fun _ => rfl⟩
      · rintro rfl
        exact hnot (by decide)
      · rintro rfl
        exact hnot (by decide)
    have hopen : ¬ (('[' : Char) = ':' ∧ !false) := by decide
    have hclose : ¬ ((']' : Char) = ':' ∧ !true) := by decide
    show splitHost false ('[' :: (literal ++ [']'] ++ ':' :: digits)) = _
    rw [splitHost_cons hopen, List.append_assoc]
    show ('[' :: (splitHost true (literal ++ ']' :: ':' :: digits)).1,
      (splitHost true (literal ++ ']' :: ':' :: digits)).2) = _
    rw [splitHost_append hinside, splitHost_cons hclose]
    show ('[' :: (literal ++ ']' :: (splitHost false (':' :: digits)).1),
      (splitHost false (':' :: digits)).2) = _
    rw [splitHost_colon]
    rfl
  · have houtside : ∀ c ∈ host, c ≠ '[' ∧ c ≠ ']' ∧ (c = ':' → false = true) := by
      intro c hc
      have hmark := hmarks c hc
      refine ⟨?_, ?_, ?_⟩
      · rintro rfl
        exact hmark (.of_mem (by decide))
      · rintro rfl
        exact hmark (.of_mem (by decide))
      · rintro rfl
        exact absurd (IsMark.of_mem (by decide)) hmark
    rw [splitHost_append houtside, splitHost_colon, List.append_nil]

/-- A text of host and port that makes a URL is split between the two. -/
theorem splitHost_of_read_ok [NameTable] {scheme : Scheme} {name : Host} {own : Option UInt16}
    (hdigits : ∀ c ∈ digits, c.isDigit = true)
    (hname : Host.read (splitHost false (host ++ ':' :: digits)).1 = .ok name)
    (hown : readPort scheme (splitHost false (host ++ ':' :: digits)).2 = .ok own) :
    splitHost false (host ++ ':' :: digits) = (host, ':' :: digits) := by
  obtain h | ⟨front, back, h⟩ | h := splitHost_cases false host hdigits
  · exact h
  · -- at an earlier colon: there is no port behind it
    rw [h, readPort_colon] at hown
    cases hown
  · -- nowhere: the whole text would be the host, with a colon in it and a digit at its end
    rw [h] at hname
    obtain ⟨literal, hliteral, -⟩ | hmarks := Host.read_chars hname
    · have hlast := congrArg List.getLast? hliteral
      rw [List.getLast?_append_of_ne_nil _ (List.cons_ne_nil _ _), List.getLast?_concat] at hlast
      have hport : ∀ c ∈ ':' :: digits, c ≠ ']' :=
        forall_mem_port hdigits (by decide) fun c hdigit => ne_of_isDigit hdigit rfl
      exact absurd rfl (hport ']' (List.mem_of_getLast? hlast))
    · exact absurd (IsMark.of_mem (by decide)) (hmarks ':' (by simp))

end Splitting

/-! ### The whole of a place -/

section Places

variable {scheme : Scheme} {port : UInt16} {host path : List Char}

/-- **A place is read as it is meant** if its host has no delimiters. -/
theorem read_place_eq_ok_iff [NameTable] (hpath : IsPlainPath path)
    (hhost : ∀ c ∈ host, ¬ IsDelimiter c) {url : Url} :
    read scheme ("//".toList ++ host ++ ':' :: Nat.toDigits 10 port.toNat ++ path) = .ok url ↔
      ∃ name, Host.read (host.filter (!isIgnored ·)) = .ok name ∧
        url = place scheme name port path := by
  have hkept : ∀ c ∈ host.filter (!isIgnored ·), ¬ IsDelimiter c :=
    fun c hc => hhost c (List.mem_of_mem_filter hc)
  have hdigits := (Decimal.IsNatural.toDigits port.toNat).digits
  have hquery := splitAt_of_notMem hpath.noQuery
  have hfragment := splitAt_of_notMem hpath.noFragment
  rw [read, cleaned_place hpath hdigits]
  simp only [authority_place hpath hdigits hkept, splitUser_place hdigits hkept, hquery, hfragment,
    exists_of_bind_eq_ok]
  constructor
  · rintro ⟨name, hname, own, hown, hurl⟩
    have hsplit := splitHost_of_read_ok hdigits hname hown
    rw [hsplit] at hname hown
    rw [readPort_digits] at hown
    refine ⟨name, hname, ?_⟩
    rw [← Except.ok.inj hurl, ← Except.ok.inj hown]
    rfl
  · rintro ⟨name, hname, rfl⟩
    refine ⟨name, ?_, if port = scheme.port then none else some port, ?_, rfl⟩
    · rw [splitHost_of_read hname]
      exact hname
    · rw [splitHost_of_read hname]
      exact readPort_digits scheme port

/-- A host as it stands in a URL has its own characters, and perhaps brackets. -/
theorem mem_hostText {host : String} {c : Char} (h : c ∈ hostText host) :
    c ∈ host.toList ∨ c = '[' ∨ c = ']' := by
  unfold hostText at h
  split at h
  · simp only [List.cons_append, List.mem_cons, List.mem_append, List.not_mem_nil, or_false] at h
    rcases h with h | h | h
    · exact .inr (.inl h)
    · exact .inl h
    · exact .inr (.inr h)
  · exact .inl h

theorem mem_hostText_of_mem {host : String} {c : Char} (h : c ∈ host.toList) :
    c ∈ hostText host := by
  unfold hostText
  split
  · exact List.mem_append_left _ (List.mem_cons_of_mem _ h)
  · exact h

/-- **A host without delimiters** makes a URL exactly when it has a normal form, and the URL is the
place with that host, the port and the path. -/
theorem ofParts_eq_ok_iff [NameTable] {host path : String} (hpath : IsPlainPath path.toList)
    (hhost : ∀ c ∈ host.toList, ¬ IsDelimiter c) {url : Url} :
    ofParts scheme host port path = .ok url ↔
      ∃ name, normalHost host = .ok name ∧ url = place scheme name port path.toList := by
  refine read_place_eq_ok_iff hpath ?_
  intro c hc
  rcases mem_hostText hc with hc | rfl | rfl
  · exact hhost c hc
  · decide
  · decide

/-- A host with a normal form has no delimiters. -/
theorem not_isDelimiter_of_normalHost [NameTable] {host : String} {name : Host}
    (h : normalHost host = .ok name) : ∀ c ∈ host.toList, ¬ IsDelimiter c := by
  intro c hc hdelimiter
  have hcounts : ∀ d ∈ "/\\?#@".toList, isIgnored d = false := by simp [isIgnored]
  have hkept : c ∈ (hostText host).filter (!isIgnored ·) := by
    refine List.mem_filter.mpr ⟨mem_hostText_of_mem hc, ?_⟩
    rw [hcounts c hdelimiter]
    rfl
  obtain ⟨literal, hliteral, hchars⟩ | hmarks := Host.read_chars h
  · have hbrackets : ∀ d ∈ "/\\?#@".toList, d ≠ '[' ∧ d ≠ ']' ∧ d ∈ "/\\?#@[]".toList := by simp
    obtain ⟨hopen, hclose, hnot⟩ := hbrackets c hdelimiter
    rw [hliteral] at hkept
    simp only [List.cons_append, List.mem_cons, List.mem_append, List.not_mem_nil, or_false,
      hopen, hclose, false_or] at hkept
    exact (hchars c hkept).not_mem hnot
  · have hmark : ∀ d ∈ "/\\?#@".toList, d ∈ "/\\?#@:[]".toList := by simp
    exact hmarks c hkept (.of_mem (hmark c hdelimiter))

end Places

/-! ### Paths -/

/-- A character that is written as it is in a path. -/
def IsPlain (c : Char) : Prop :=
  0x20 < c.toNat ∧ c.toNat < 0x7F ∧ c ∉ " \"<>`".toList ++ "#?\x7b\x7d".toList

theorem IsPlain.inPath {c : Char} (h : IsPlain c) : Escape.inPath c = false := by
  obtain ⟨hlow, hhigh, hmem⟩ := h
  rw [List.mem_append, not_or] at hmem
  have hcontrol : Escape.isControl c = false := by
    rw [Escape.isControl, Bool.or_eq_false_iff, decide_eq_false_iff_not, decide_eq_false_iff_not]
    exact ⟨Nat.not_lt_of_lt hlow, Nat.not_le_of_lt hhigh⟩
  rw [Escape.inPath, Escape.inFragment, hcontrol, String.contains_char_eq, String.contains_char_eq,
    decide_eq_false hmem.1, decide_eq_false hmem.2]
  rfl

theorem encode_of_plain {set : Char → Bool} {cs : List Char} (h : ∀ c ∈ cs, set c = false) :
    Escape.encode set cs = cs := by
  induction cs with
  | nil => rfl
  | cons c cs ih =>
    have hc := h c List.mem_cons_self
    have hcs := ih fun d hd => h d (List.mem_cons_of_mem _ hd)
    rw [Escape.encode, List.flatMap_cons, hc]
    show c :: Escape.encode set cs = c :: cs
    rw [hcs]

theorem readPath_of_plain {rest : List Char} (h : ∀ c ∈ rest, IsPlain c) :
    readPath ('/' :: rest) = resolve [] (segments rest) := by
  show resolve [] (segments (Escape.encode Escape.inPath rest)) = resolve [] (segments rest)
  rw [encode_of_plain fun c hc => (h c hc).inPath]

/-- A path of plain characters that is resolved already. -/
theorem IsPlainPath.of_plain {rest : List Char} (hplain : ∀ c ∈ rest, IsPlain c)
    (hresolved : (resolve [] (segments rest)).flatMap ('/' :: ·) = '/' :: rest) :
    IsPlainPath ('/' :: rest) := by
  have hnot : ∀ c ∈ "#?".toList, c ∉ '/' :: rest := by
    intro c hc hmem
    have hmarks : ∀ d ∈ "#?".toList, d ≠ '/' ∧ d ∈ " \"<>`".toList ++ "#?\x7b\x7d".toList := by simp
    obtain ⟨hslash, hmark⟩ := hmarks c hc
    rcases List.mem_cons.mp hmem with hc | hmem
    · exact hslash hc
    · exact (hplain c hmem).2.2 hmark
  refine ⟨rfl, ?_, hnot '?' (by simp), hnot '#' (by simp), ?_⟩
  · intro c hc
    rcases List.mem_cons.mp hc with rfl | hc
    · decide
    · exact (hplain c hc).1
  · rw [readPath_of_plain hplain]
    exact hresolved

end Net.Url

end GaleraHealth
