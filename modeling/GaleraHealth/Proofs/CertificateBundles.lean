import GaleraHealth.Proofs.EncodedText
import GaleraHealth.Tls.Pem

/-!
# Bundles of certificates

The text that an agent's settings trust is a bundle: sections with certificates, one behind the
other, each with a body of several lines.

* `IsBodyLine`, `bundle`: the lines of a body, and the text of some bodies.
* `lines_flatten`: lines that are put together are the lines of the text.
* `next_armored`: a section is read to its end, whatever its body is.
* `certificates_bundle`: the certificates of a bundle are what its bodies stand for, and the first
  faulty body makes the whole bundle faulty.
-/

namespace GaleraHealth.Pem

/-- A line of a body: it neither opens nor closes a section. -/
structure IsBodyLine (l : List Char) : Prop where
  noDash : l.head? ≠ some '-'
  noBreak : ∀ c ∈ l, c ≠ '\n' ∧ c ≠ '\r'

/-- The lines of a section with a certificate. -/
def armoredLines (body : List (List Char)) : List (List Char) :=
  "-----BEGIN CERTIFICATE-----\n".toList :: body.map (· ++ ['\n']) ++
    ["-----END CERTIFICATE-----\n".toList]

/-- The text of sections with certificates. -/
def bundle (bodies : List (List (List Char))) : String :=
  String.ofList (bodies.flatMap armoredLines).flatten

/-- The bytes of a body that is written in lines. -/
def bodyOfLines (body : List (List Char)) : Except Fault (List UInt8) :=
  Pem.body ((body.flatMap (· ++ ['\n'])).flatMap String.utf8EncodeChar)

/-- A line is seen to have no line ends by looking through it. -/
theorem noBreak_of_all {l : List Char} (h : l.all (fun c => c != '\n' && c != '\r') = true) :
    ∀ c ∈ l, c ≠ '\n' ∧ c ≠ '\r' := by
  intro c hc
  have hboth := List.all_eq_true.mp h c hc
  rwa [Bool.and_eq_true, bne_iff_ne, bne_iff_ne] at hboth

/-! ### Lines -/

theorem lines_append_break {l : List Char} (h : ∀ c ∈ l, c ≠ '\n' ∧ c ≠ '\r')
    (rest : List Char) : lines (l ++ '\n' :: rest) = (l ++ ['\n']) :: lines rest := by
  induction l with
  | nil => rfl
  | cons c cs ih =>
    have hc := h c List.mem_cons_self
    have hcs := ih fun d hd => h d (List.mem_cons_of_mem c hd)
    have hnone : ¬ (c = '\n' ∨ c = '\r') := not_or.mpr hc
    rw [List.cons_append, lines, if_neg hnone, hcs]
    rfl

/-- Lines that are put together are the lines of the text. -/
theorem lines_flatten {ls : List (List Char)}
    (h : ∀ l ∈ ls, ∃ front, l = front ++ ['\n'] ∧ ∀ c ∈ front, c ≠ '\n' ∧ c ≠ '\r') :
    lines ls.flatten = ls := by
  induction ls with
  | nil => rfl
  | cons l rest ih =>
    obtain ⟨front, rfl, hfront⟩ := h l List.mem_cons_self
    have hrest := ih fun l' hl' => h l' (List.mem_cons_of_mem _ hl')
    rw [List.flatten_cons, List.append_assoc, List.singleton_append, lines_append_break hfront,
      hrest]

/-! ### Sections -/

/-- A line of a body is kept. -/
theorem next_bodyLine {l : List Char} (h : l.head? ≠ some '-') (label text : List Char)
    (rest : List (List Char)) : next (some ⟨label, text⟩) ((l ++ ['\n']) :: rest) =
      next (some ⟨label, text ++ (l ++ ['\n'])⟩) rest := by
  have hbegin : after? "-----BEGIN ".toList (l ++ ['\n']) = none := by
    cases l with
    | nil => decide +kernel
    | cons c cs =>
      have hc : ¬ '-' = c := by
        rintro rfl
        exact h rfl
      simp [after?, hc]
  have hend : ("-----END ".toList ++ label ++ "-----".toList).isPrefixOf (l ++ ['\n']) =
      false := by
    cases l with
    | nil => simp [List.isPrefixOf]
    | cons c cs =>
      have hc : ¬ '-' = c := by
        rintro rfl
        exact h rfl
      simp [List.isPrefixOf, hc]
  rw [next, hbegin]
  exact if_neg (ne_true_of_eq_false hend)

/-- What a reader knows after a section that ends there. -/
def closed (kind : Kind) (rest : List (List Char)) : Except Fault (List UInt8) → Next
  | .ok bytes => .found ⟨kind, bytes⟩ rest
  | .error f => .faulty f

/-- The line that closes a section makes it complete. -/
theorem next_closed {label text line : List Char} {kind : Kind}
    (hbegin : after? "-----BEGIN ".toList line = none)
    (hend : ("-----END ".toList ++ label ++ "-----".toList).isPrefixOf line = true)
    (hkind : Kind.labels.lookup (String.ofList label) = some kind) (rest : List (List Char)) :
    next (some ⟨label, text⟩) (line :: rest) =
      closed kind rest (Pem.body (text.flatMap String.utf8EncodeChar)) := by
  rw [next, hbegin]
  simp only [hend, hkind, if_true, Text.toUTF8_toList_eq, String.toList_ofList]
  cases Pem.body (text.flatMap String.utf8EncodeChar) with
  | ok bytes => rfl
  | error f => rfl

/-- From any line of its body on, a section is read to its end. -/
theorem next_body {body : List (List Char)} (h : ∀ l ∈ body, IsBodyLine l)
    {label line : List Char} {kind : Kind}
    (hbegin : after? "-----BEGIN ".toList line = none)
    (hend : ("-----END ".toList ++ label ++ "-----".toList).isPrefixOf line = true)
    (hkind : Kind.labels.lookup (String.ofList label) = some kind) (text : List Char)
    (rest : List (List Char)) :
    next (some ⟨label, text⟩) (body.map (· ++ ['\n']) ++ line :: rest) = closed kind rest
      (Pem.body ((text ++ body.flatMap (· ++ ['\n'])).flatMap String.utf8EncodeChar)) := by
  induction body generalizing text with
  | nil =>
    rw [List.flatMap_nil, List.append_nil]
    exact next_closed hbegin hend hkind rest
  | cons l body ih =>
    have hl := h l List.mem_cons_self
    have hbody := ih fun l' hl' => h l' (List.mem_cons_of_mem l hl')
    rw [List.map_cons, List.cons_append, next_bodyLine hl.noDash, hbody, List.flatMap_cons,
      List.append_assoc]

/-- A section of a certificate is read to its end. -/
theorem next_armored {body : List (List Char)} (h : ∀ l ∈ body, IsBodyLine l)
    (rest : List (List Char)) : next none (armoredLines body ++ rest) =
      closed .certificate rest (bodyOfLines body) := by
  have hopened : after? "-----BEGIN ".toList "-----BEGIN CERTIFICATE-----\n".toList =
      some "CERTIFICATE-----\n".toList := by decide +kernel
  have hlabel : label? "CERTIFICATE-----\n".toList = some "CERTIFICATE".toList := by
    decide +kernel
  have hbegin : after? "-----BEGIN ".toList "-----END CERTIFICATE-----\n".toList = none := by
    decide +kernel
  have hend : ("-----END ".toList ++ "CERTIFICATE".toList ++ "-----".toList).isPrefixOf
      "-----END CERTIFICATE-----\n".toList = true := by decide +kernel
  have hkind : Kind.labels.lookup (String.ofList "CERTIFICATE".toList) = some .certificate := by
    decide +kernel
  rw [armoredLines, List.cons_append, List.cons_append, next, hopened]
  simp only [hlabel]
  rw [List.append_assoc, List.singleton_append]
  exact next_body h hbegin hend hkind [] rest

/-- The sections of a text of certificates, as far as the steps go. -/
theorem sectionsFrom_armored {bodies : List (List (List Char))}
    (h : ∀ body ∈ bodies, ∀ l ∈ body, IsBodyLine l) {fuel : Nat} (hfuel : bodies.length < fuel) :
    (∀ certificates, bodies.mapM bodyOfLines = .ok certificates →
      sectionsFrom fuel (bodies.flatMap armoredLines) =
        (certificates.map (⟨.certificate, ·⟩), none)) ∧
    ∀ f, bodies.mapM bodyOfLines = .error f →
      (sectionsFrom fuel (bodies.flatMap armoredLines)).2 = some f := by
  induction bodies generalizing fuel with
  | nil =>
    obtain ⟨fuel, rfl⟩ := Nat.exists_eq_succ_of_ne_zero (Nat.ne_of_gt hfuel)
    refine ⟨fun certificates hc => ?_, fun f hf => ?_⟩
    · cases hc
      rfl
    · cases hf
  | cons body bodies ih =>
    obtain ⟨fuel, rfl⟩ := Nat.exists_eq_succ_of_ne_zero (Nat.ne_of_gt (Nat.zero_lt_of_lt hfuel))
    have hnext := next_armored (h body List.mem_cons_self) (bodies.flatMap armoredLines)
    obtain ⟨hok, herror⟩ := ih (fun b hb => h b (List.mem_cons_of_mem body hb))
      (Nat.lt_of_succ_lt_succ hfuel)
    rw [List.mapM_cons, List.flatMap_cons, sectionsFrom, hnext]
    cases hbody : bodyOfLines body with
    | error g =>
      refine ⟨fun certificates hc => ?_, fun f hf => ?_⟩
      · cases hc
      · cases hf
        rfl
    | ok bytes =>
      cases hrest : bodies.mapM bodyOfLines with
      | error g =>
        refine ⟨fun certificates hc => ?_, fun f hf => ?_⟩
        · cases hc
        · cases hf
          exact herror g hrest
      | ok certificates =>
        refine ⟨fun certificates' hc => ?_, fun f hf => ?_⟩
        · cases hc
          simp only [closed, hok certificates hrest]
          rfl
        · cases hf

/-! ### Bundles -/

/-- Every line of a section has one line end, which stands last. -/
theorem exists_front_of_mem {body : List (List Char)} (h : ∀ l ∈ body, IsBodyLine l)
    {l : List Char} (hl : l ∈ armoredLines body) :
    ∃ front, l = front ++ ['\n'] ∧ ∀ c ∈ front, c ≠ '\n' ∧ c ≠ '\r' := by
  rw [armoredLines, List.mem_append, List.mem_cons, List.mem_singleton] at hl
  rcases hl with (rfl | hl) | rfl
  · exact ⟨"-----BEGIN CERTIFICATE-----".toList, by decide +kernel,
      noBreak_of_all (by decide +kernel)⟩
  · obtain ⟨front, hfront, rfl⟩ := List.mem_map.mp hl
    exact ⟨front, rfl, (h front hfront).noBreak⟩
  · exact ⟨"-----END CERTIFICATE-----".toList, by decide +kernel,
      noBreak_of_all (by decide +kernel)⟩

theorem length_le_flatMap_armoredLines (bodies : List (List (List Char))) :
    bodies.length ≤ (bodies.flatMap armoredLines).length := by
  induction bodies with
  | nil => exact Nat.le_refl 0
  | cons body bodies ih =>
    have hpos : 0 < (armoredLines body).length := Nat.succ_pos _
    rw [List.length_cons, List.flatMap_cons, List.length_append]
    omega

/-- **The certificates of a bundle** are what its bodies stand for. The first body that stands for
nothing makes the whole bundle faulty. -/
theorem certificates_bundle {bodies : List (List (List Char))}
    (h : ∀ body ∈ bodies, ∀ l ∈ body, IsBodyLine l) :
    certificates (bundle bodies) = bodies.mapM bodyOfLines := by
  have hlines : lines (bundle bodies).toList = bodies.flatMap armoredLines := by
    rw [bundle, String.toList_ofList]
    apply lines_flatten
    intro l hl
    obtain ⟨body, hbody, hl⟩ := List.mem_flatMap.mp hl
    exact exists_front_of_mem (h body hbody) hl
  have hfuel := Nat.lt_succ_of_le (length_le_flatMap_armoredLines bodies)
  obtain ⟨hok, herror⟩ := sectionsFrom_armored h hfuel
  rw [certificates, sections, hlines]
  cases hread : bodies.mapM bodyOfLines with
  | ok certificates =>
    simp only [hok certificates hread]
    simp [List.filter_map, Function.comp_def]
  | error f =>
    have hfault := herror f hread
    generalize sectionsFrom _ (bodies.flatMap armoredLines) = found at hfault ⊢
    obtain ⟨before, fault⟩ := found
    cases hfault
    rfl

end GaleraHealth.Pem
