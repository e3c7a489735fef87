import GaleraHealth.Database.Probe
import GaleraHealth.Proofs.FallibleSteps
import GaleraHealth.Proofs.LossyText
import GaleraHealth.Proofs.StatusOfRows

/-!
# White space around reported values

A server that puts white space around the values it reports says the same with them. Here two
answers are read, of which the second has white space around its values that the first has not.

* `equalsIgnoringCase_of_pads`: a word is another one with white space around it. The kind of
  component and `ON` are compared so; every other value is trimmed before it is read.
* `Seen.Pads`, `NodeStatus.Pads`: records that differ in the white space around what they keep as it
  was reported, and in nothing else. A row keeps them so (`add_pads`), and so do all rows
  (`foldlM_pads`).
* `NodeStatus.Pads.isHealthy_eq`: what of that the health of a node depends on.
* `RawRow.Pads`, `read_pads`: white space around the bytes of a value is white space around the
  text that is read from them.

`readNode_padded` puts this together: the status is read from the padded values too, and says the
same, but for a `Primary` and an `ON` that were padded.
-/

namespace GaleraHealth

/-! ### Words -/

namespace Text

/-- White space has no letter case. -/
theorem toLower_of_isBlank {c : Char} (h : isBlank c = true) : c.toLower = c := by
  have hblank := toNat_of_isBlank h
  have hsmall : ¬ (c.val ≥ 'A'.val ∧ c.val ≤ 'Z'.val) := by
    intro hcapital
    have hlow : 65 ≤ c.toNat := hcapital.1
    have hhigh : c.toNat ≤ 90 := hcapital.2
    omega
  exact dif_neg hsmall

theorem equalsIgnoringCase_iff {s t : String} : equalsIgnoringCase s t = true ↔
    s.toList.map Char.toLower = t.toList.map Char.toLower := by
  rw [equalsIgnoringCase, beq_iff_eq, lowerAscii, lowerAscii, String.ofList_inj]

/-- A text that is a word in any letter case has no white space if the word has none. -/
theorem not_isBlank_of_equalsIgnoringCase {value word : String}
    (hword : (word.toList.map Char.toLower).all (!isBlank ·) = true)
    (h : equalsIgnoringCase value word = true) :
    ∀ c ∈ value.toList, isBlank c = false := by
  intro c hc
  have hmem : c.toLower ∈ word.toList.map Char.toLower := by
    rw [← equalsIgnoringCase_iff.mp h]
    exact List.mem_map_of_mem hc
  cases hblank : isBlank c with
  | false => rfl
  | true =>
    rw [toLower_of_isBlank hblank] at hmem
    have hnot := List.all_eq_true.mp hword c hmem
    rw [hblank] at hnot
    cases hnot

end Text

/-! ### One value -/

namespace StatusRow

/-- The second value is the first with white space around it. -/
def Pads (value padded : String) : Prop := IsPadded padded value.toList

section Values

variable {value padded word : String}

theorem pads_refl (value : String) : Pads value value :=
  ⟨[], [], by rw [List.nil_append, List.append_nil], List.forall_mem_nil _, List.forall_mem_nil _⟩

/-- White space is seen around a value by looking through it. -/
theorem pads_of_all (front back : List Char)
    (hpadded : padded.toList = front ++ value.toList ++ back)
    (hfront : front.all Text.isBlank = true) (hback : back.all Text.isBlank = true) :
    Pads value padded :=
  ⟨front, back, hpadded, List.all_eq_true.mp hfront, List.all_eq_true.mp hback⟩

theorem trimEnds_of_pads (h : Pads value padded) :
    Text.trimEnds Text.isBlank padded.toList = Text.trimEnds Text.isBlank value.toList := by
  obtain ⟨front, back, hpadded, hfront, hback⟩ := h
  rw [hpadded, Text.trimEnds_between hfront hback]

theorem trim_of_pads (h : Pads value padded) : Text.trim padded = Text.trim value := by
  rw [Text.trim, Text.trim, trimEnds_of_pads h]

theorem size?_of_pads (h : Pads value padded) : size? padded = size? value := by
  rw [size?, size?, trimEnds_of_pads h]

theorem seqno?_of_pads (h : Pads value padded) : seqno? padded = seqno? value := by
  rw [seqno?, seqno?, trimEnds_of_pads h]

theorem ofComment_of_pads (h : Pads value padded) :
    SyncState.ofComment padded = SyncState.ofComment value := by
  rw [SyncState.ofComment, SyncState.ofComment, trim_of_pads h]

/-- **A word** is another one as soon as white space is put around it. -/
theorem equalsIgnoringCase_of_pads (h : Pads value padded)
    (hword : (word.toList.map Char.toLower).all (!Text.isBlank ·) = true) :
    Text.equalsIgnoringCase padded word = true ↔
      Text.equalsIgnoringCase value word = true ∧ padded = value := by
  constructor
  · intro hequal
    have hplain := Text.not_isBlank_of_equalsIgnoringCase hword hequal
    have hvalue : ∀ c ∈ value.toList, Text.isBlank c = false := by
      obtain ⟨front, back, hpadded, -, -⟩ := h
      intro c hc
      apply hplain
      rw [hpadded]
      exact List.mem_append_left _ (List.mem_append_right _ hc)
    have hsame : padded = value := by
      rw [← String.toList_inj]
      calc padded.toList = Text.trimEnds Text.isBlank padded.toList :=
            (Text.trimEnds_of_plain hplain).symm
        _ = Text.trimEnds Text.isBlank value.toList := trimEnds_of_pads h
        _ = value.toList := Text.trimEnds_of_plain hvalue
    rw [hsame] at hequal
    exact ⟨hequal, hsame⟩
  · intro h
    rw [h.2]
    exact h.1

/-- A text is not at once the word for a switch that is on and, trimmed, its number. -/
theorem trim_ne_of_on (h : Text.equalsIgnoringCase value "on" = true) : Text.trim value ≠ "1" := by
  intro hone
  have hcore : Text.trimEnds Text.isBlank value.toList = ['1'] :=
    String.ofList_injective hone
  obtain ⟨front, back, hvalue, -, -⟩ := Text.exists_trimEnds_parts Text.isBlank value.toList
  have hmem : '1' ∈ value.toList := by
    rw [hvalue, hcore]
    simp
  have hletters : Char.toLower '1' ∈ ['o', 'n'] := by
    have hmap := List.mem_map_of_mem (f := Char.toLower) hmem
    rw [Text.equalsIgnoringCase_iff.mp h] at hmap
    exact hmap
  revert hletters
  decide

/-- **A switch** is not read as on any more if it was `ON`, and is read as before if it was the
number. -/
theorem isOn_of_pads (h : Pads value padded) : isOn padded = true ↔
    isOn value = true ∧ (Text.equalsIgnoringCase value "on" = true → padded = value) := by
  have hword : Text.equalsIgnoringCase padded "on" = true ↔
      Text.equalsIgnoringCase value "on" = true ∧ padded = value :=
    equalsIgnoringCase_of_pads h (by decide)
  simp only [isOn, Bool.or_eq_true, beq_iff_eq, trim_of_pads h, hword]
  by_cases hon : Text.equalsIgnoringCase value "on" = true
  · have hone := trim_ne_of_on hon
    simp [hon, hone]
  · simp [hon]

end Values

/-! ### All rows -/

/-- The second row has the same variable, and white space around its value. -/
def PadsRow (row padded : StatusRow) : Prop :=
  padded.1 = row.1 ∧ Pads row.2 padded.2

/-- The second record is the first with white space around what is kept as it was reported. -/
structure Seen.Pads (s t : Seen) : Prop where
  localState : Option.Rel StatusRow.Pads s.localState t.localState
  clusterStatus : StatusRow.Pads s.clusterStatus t.clusterStatus
  clusterSize : t.clusterSize = s.clusterSize
  localIndex : Option.Rel StatusRow.Pads s.localIndex t.localIndex
  lastCommitted : t.lastCommitted = s.lastCommitted
  lastApplied : t.lastApplied = s.lastApplied

theorem pads_nothing : Seen.nothing.Pads Seen.nothing :=
  ⟨.none, pads_refl "", rfl, .none, rfl, rfl⟩

/-- A row that should hold a number changes a record exactly if it holds one. -/
theorem numberOr_map_eq_ok_iff {α β : Type} {row : StatusRow} {read : Option α} {f : α → β}
    {b : β} : (numberOr row read).map f = .ok b ↔ ∃ n, read = some n ∧ f n = b := by
  rw [map_eq_ok_iff]
  cases read with
  | none => simp [numberOr]
  | some n => simp [numberOr]

variable {s t s' : Seen} {row padded : StatusRow}

/-- **One row.** What it adds to the records keeps them alike. -/
theorem add_pads (h : s.Pads t) (hrow : PadsRow row padded) (hadd : s.add row = .ok s') :
    ∃ t', t.add padded = .ok t' ∧ s'.Pads t' := by
  obtain ⟨hstate, hstatus, hsize, hindex, hcommitted, happlied⟩ := h
  obtain ⟨hname, hvalue⟩ := hrow
  unfold Seen.add at hadd ⊢
  rw [hname]
  -- one case for each variable; a row changes the field of its own variable and no other
  split_ifs at hadd ⊢
  · cases hadd
    exact ⟨_, rfl, .some hvalue, hstatus, hsize, hindex, hcommitted, happlied⟩
  · cases hadd
    exact ⟨_, rfl, hstate, hvalue, hsize, hindex, hcommitted, happlied⟩
  · obtain ⟨n, hn, rfl⟩ := numberOr_map_eq_ok_iff.mp hadd
    rw [← size?_of_pads hvalue] at hn
    refine ⟨_, numberOr_map_eq_ok_iff.mpr ⟨n, hn, rfl⟩, ?_⟩
    exact ⟨hstate, hstatus, rfl, hindex, hcommitted, happlied⟩
  · cases hadd
    exact ⟨_, rfl, hstate, hstatus, hsize, .some hvalue, hcommitted, happlied⟩
  · obtain ⟨n, hn, rfl⟩ := numberOr_map_eq_ok_iff.mp hadd
    rw [← seqno?_of_pads hvalue] at hn
    refine ⟨_, numberOr_map_eq_ok_iff.mpr ⟨n, hn, rfl⟩, ?_⟩
    exact ⟨hstate, hstatus, hsize, hindex, rfl, happlied⟩
  · obtain ⟨n, hn, rfl⟩ := numberOr_map_eq_ok_iff.mp hadd
    rw [← seqno?_of_pads hvalue] at hn
    refine ⟨_, numberOr_map_eq_ok_iff.mpr ⟨n, hn, rfl⟩, ?_⟩
    exact ⟨hstate, hstatus, hsize, hindex, hcommitted, rfl⟩
  · cases hadd
    exact ⟨_, rfl, hstate, hstatus, hsize, hindex, hcommitted, happlied⟩

/-- **All rows**, one after the other. -/
theorem foldlM_pads {rows rows' : List StatusRow} (hrows : List.Forall₂ PadsRow rows rows')
    (h : s.Pads t) (hfold : rows.foldlM Seen.add s = .ok s') :
    ∃ t', rows'.foldlM Seen.add t = .ok t' ∧ s'.Pads t' := by
  induction hrows generalizing s t with
  | nil =>
    cases hfold
    exact ⟨t, rfl, h⟩
  | cons hrow hrest ih =>
    rw [List.foldlM_cons] at hfold
    obtain ⟨s₁, hadd, hfold⟩ := exists_of_bind_eq_ok.mp hfold
    obtain ⟨t₁, hadd', h₁⟩ := add_pads h hrow hadd
    obtain ⟨t', hfold', h'⟩ := ih h₁ hfold
    refine ⟨t', ?_, h'⟩
    rw [List.foldlM_cons, hadd']
    exact hfold'

end StatusRow

/-! ### The status -/

/-- The second status is the first with white space around what is kept as it was reported. -/
structure NodeStatus.Pads (s t : NodeStatus) : Prop where
  syncState : t.syncState = s.syncState
  localState : StatusRow.Pads s.localState t.localState
  clusterSize : t.clusterSize = s.clusterSize
  clusterStatus : StatusRow.Pads s.clusterStatus t.clusterStatus
  localIndex : Option.Rel StatusRow.Pads s.localIndex t.localIndex
  lastCommitted : t.lastCommitted = s.lastCommitted

namespace StatusRow

theorem getD_pads {value padded : Option String} (h : Option.Rel Pads value padded) :
    Pads (value.getD "") (padded.getD "") := by
  cases h with
  | some h => exact h
  | none => exact pads_refl ""

theorem Seen.Pads.status {s t : Seen} (h : s.Pads t) : s.status.Pads t.status where
  syncState := by
    simp only [Seen.status]
    exact ofComment_of_pads (getD_pads h.localState)
  localState := getD_pads h.localState
  clusterSize := h.clusterSize
  clusterStatus := h.clusterStatus
  localIndex := h.localIndex
  lastCommitted := by
    simp only [Seen.status]
    rw [h.lastCommitted, h.lastApplied]

/-- **The rows of a status**: white space around their values does not matter to what is a
number or a state. -/
theorem status_pads {rows rows' : List StatusRow} (hrows : List.Forall₂ PadsRow rows rows')
    {s : NodeStatus} (h : status rows = .ok s) : ∃ t, status rows' = .ok t ∧ s.Pads t := by
  have hempty : rows'.isEmpty = rows.isEmpty := by
    cases hrows with
    | nil => rfl
    | cons _ _ => rfl
  unfold status at h ⊢
  rw [hempty]
  split_ifs at h ⊢
  obtain ⟨seen, hfold, rfl⟩ := map_eq_ok_iff.mp h
  obtain ⟨seen', hfold', hseen⟩ := foldlM_pads hrows pads_nothing hfold
  refine ⟨seen'.status, ?_, hseen.status⟩
  rw [hfold']
  rfl

end StatusRow

namespace NodeStatus.Pads

variable {s t : NodeStatus}

/-- A primary component is not taken for one any more if the word for it was padded. -/
theorem isPrimary_iff (h : s.Pads t) :
    t.isPrimary = true ↔ s.isPrimary = true ∧ t.clusterStatus = s.clusterStatus :=
  StatusRow.equalsIgnoringCase_of_pads h.clusterStatus (by decide)

/-- **Health** depends on the padding only as far as the quorum asks for a primary component or for
writes. -/
theorem isHealthy_eq (h : s.Pads t) {q : Quorum}
    (hprimary : q.policy = .primaryComponent → t.isPrimary = s.isPrimary)
    (hwrites : q.requireWritable = true → t.readOnly = s.readOnly) (configured : UInt64) :
    q.isHealthy t configured = q.isHealthy s configured := by
  have hwritable : (q.requireWritable && t.readOnly) = (q.requireWritable && s.readOnly) := by
    cases hq : q.requireWritable with
    | false => rfl
    | true => rw [hwrites hq]
  have hadmits : q.policy.admits t configured = q.policy.admits s configured := by
    cases hp : q.policy with
    | primaryComponent =>
      rw [Policy.admits, hprimary hp, h.clusterSize]
      rfl
    | majority =>
      rw [Policy.admits, h.clusterSize]
      rfl
    | minClusterSize least =>
      rw [Policy.admits, h.clusterSize]
      rfl
  rw [Quorum.isHealthy, Quorum.isHealthy, h.syncState, hwritable, hadmits]

end NodeStatus.Pads

/-! ### The two queries -/

namespace RawRow

/-- The second row has the same name, and a value that is sent with white space around it. -/
def Pads (row padded : RawRow) : Prop :=
  ∃ name value, ∃ front back : List Char, row = (some name, some value) ∧
    padded = (some name, some (front.flatMap String.utf8EncodeChar ++ value ++
      back.flatMap String.utf8EncodeChar)) ∧
    (∀ c ∈ front, Text.isBlank c = true) ∧ ∀ c ∈ back, Text.isBlank c = true

variable {row padded : RawRow}

theorem read_pads (h : RawRow.Pads row padded) :
    ∃ r r', row.read = .ok r ∧ padded.read = .ok r' ∧ StatusRow.PadsRow r r' := by
  obtain ⟨name, value, front, back, rfl, rfl, hfront, hback⟩ := h
  refine ⟨_, _, rfl, rfl, rfl, front, back, ?_, hfront, hback⟩
  show (Text.ofBytesLossy _).toList = front ++ (Text.ofBytesLossy value).toList ++ back
  rw [Text.ofBytesLossy, Text.ofBytesLossy, String.toList_ofList, String.toList_ofList,
    Text.decodeLossy_between]

theorem mapM_read_pads {raw raw' : List RawRow} (h : List.Forall₂ RawRow.Pads raw raw') :
    ∃ rows rows', raw.mapM RawRow.read = .ok rows ∧ raw'.mapM RawRow.read = .ok rows' ∧
      List.Forall₂ StatusRow.PadsRow rows rows' := by
  induction h with
  | nil => exact ⟨[], [], rfl, rfl, .nil⟩
  | cons hrow _ ih =>
    obtain ⟨r, r', hr, hr', hpads⟩ := read_pads hrow
    obtain ⟨rows, rows', hrows, hrows', hrest⟩ := ih
    refine ⟨r :: rows, r' :: rows', ?_, ?_, .cons hpads hrest⟩
    · rw [List.mapM_cons, hr, hrows]
      rfl
    · rw [List.mapM_cons, hr', hrows']
      rfl

end RawRow

theorem readStatus_pads {raw raw' : List RawRow} (hraw : List.Forall₂ RawRow.Pads raw raw')
    {s : NodeStatus} (h : readStatus raw = .ok s) : ∃ t, readStatus raw' = .ok t ∧ s.Pads t := by
  obtain ⟨rows, rows', hrows, hrows', hpads⟩ := RawRow.mapM_read_pads hraw
  rw [readStatus, hrows] at h
  obtain ⟨t, ht, hst⟩ := StatusRow.status_pads hpads (mapError_eq_ok_iff.mp h)
  refine ⟨t, ?_, hst⟩
  rw [readStatus, hrows']
  exact mapError_eq_ok_iff.mpr ht

/-- The value in the first row of an answer, if it can be read. -/
def firstValue? : List RawRow → Option String
  | [] => none
  | row :: _ => row.read.toOption.map Prod.snd

/-- The first answer says `ON`, and the second has white space around that. -/
def SwitchLost (answer padded : List RawRow) : Prop :=
  ∃ value ∈ firstValue? answer, Text.equalsIgnoringCase value "on" = true ∧
    firstValue? padded ≠ some value

/-- **Whether the server is read-only** is read from the padded value as well, unless it was
`ON`. -/
theorem readReadOnly_pads {answer padded : List RawRow}
    (h : Option.Rel RawRow.Pads answer.head? padded.head?) :
    ∃ on on', readReadOnly answer = .ok on ∧ readReadOnly padded = .ok on' ∧
      (on' = true ↔ on = true ∧ ¬ SwitchLost answer padded) := by
  match answer, padded with
  | [], [] =>
    refine ⟨false, false, rfl, rfl, ?_⟩
    simp
  | row :: rest, row' :: rest' =>
    cases h with
    | some hrow =>
      obtain ⟨r, r', hr, hr', hpads⟩ := RawRow.read_pads hrow
      refine ⟨StatusRow.isOn r.2, StatusRow.isOn r'.2, ?_, ?_, ?_⟩
      · rw [readReadOnly, hr]
        rfl
      · rw [readReadOnly, hr']
        rfl
      · have hlost : (Text.equalsIgnoringCase r.2 "on" = true → r'.2 = r.2) ↔
            ¬ SwitchLost (row :: rest) (row' :: rest') := by
          simp [SwitchLost, firstValue?, hr, hr', Except.toOption]
        rw [StatusRow.isOn_of_pads hpads.2, hlost]

theorem readNode_rows_eq_ok_iff {raw answer : List RawRow} {s : NodeStatus} :
    readNode (.rows raw) (.rows answer) = .ok s ↔
      ∃ node, readStatus raw = .ok node ∧ ∃ on, readReadOnly answer = .ok on ∧
        { node with readOnly := on } = s := by
  show (readStatus raw >>= fun node => readReadOnly answer >>= fun on =>
    .ok { node with readOnly := on }) = .ok s ↔ _
  simp only [exists_of_bind_eq_ok, Except.ok.injEq]

/-! ### Rows that are sent as UTF-8 -/

/-- A row as a server sends it, with its texts in UTF-8. -/
def RawRow.sent (row : StatusRow) : RawRow :=
  (some row.1.toUTF8.toList, some row.2.toUTF8.toList)

theorem RawRow.read_sent (row : StatusRow) : (RawRow.sent row).read = .ok row := by
  rw [RawRow.sent, RawRow.read, Text.ofBytesLossy_toUTF8, Text.ofBytesLossy_toUTF8]

theorem RawRow.pads_sent {row padded : StatusRow} (h : row.PadsRow padded) :
    RawRow.Pads (RawRow.sent row) (RawRow.sent padded) := by
  obtain ⟨hname, front, back, hvalue, hfront, hback⟩ := h
  refine ⟨_, _, front, back, rfl, ?_, hfront, hback⟩
  rw [RawRow.sent, hname, Text.toUTF8_toList_eq padded.2, hvalue, List.flatMap_append,
    List.flatMap_append, Text.toUTF8_toList_eq row.2]

theorem forall₂_pads_sent {rows rows' : List StatusRow}
    (h : List.Forall₂ StatusRow.PadsRow rows rows') :
    List.Forall₂ RawRow.Pads (rows.map RawRow.sent) (rows'.map RawRow.sent) := by
  induction h with
  | nil => exact .nil
  | cons hrow _ ih => exact .cons (RawRow.pads_sent hrow) ih

theorem mapM_read_sent (rows : List StatusRow) :
    (rows.map RawRow.sent).mapM RawRow.read = .ok rows := by
  induction rows with
  | nil => rfl
  | cons row rest ih =>
    rw [List.map_cons, List.mapM_cons, RawRow.read_sent, ih]
    rfl

theorem readNode_sent {rows : List StatusRow} {answer : StatusRow} {s : NodeStatus}
    (h : StatusRow.status rows = .ok { s with readOnly := false })
    (hon : StatusRow.isOn answer.2 = s.readOnly) :
    readNode (.rows (rows.map RawRow.sent)) (.rows [RawRow.sent answer]) = .ok s := by
  apply readNode_rows_eq_ok_iff.mpr
  refine ⟨{ s with readOnly := false }, ?_, s.readOnly, ?_, rfl⟩
  · rw [readStatus, mapM_read_sent]
    exact mapError_eq_ok_iff.mpr h
  · rw [readReadOnly, RawRow.read_sent, ← hon]
    rfl

/-- The rows of a node, as far as its health depends on them. -/
def healthRows (comment size word : String) : List StatusRow :=
  [("wsrep_local_state_comment", comment), ("wsrep_cluster_size", size),
    ("wsrep_cluster_status", word)]

/-- A node in a primary component of three, as its rows say. -/
def primaryOfThree (comment word : String) (readOnly : Bool) : NodeStatus :=
  ⟨.synced, comment, 3, word, readOnly, none, none⟩

theorem healthRows_pads {comment comment' size size' word word' : String}
    (hcomment : StatusRow.Pads comment comment') (hsize : StatusRow.Pads size size')
    (hword : StatusRow.Pads word word') :
    List.Forall₂ RawRow.Pads ((healthRows comment size word).map RawRow.sent)
      ((healthRows comment' size' word').map RawRow.sent) :=
  forall₂_pads_sent (.cons ⟨rfl, hcomment⟩ (.cons ⟨rfl, hsize⟩ (.cons ⟨rfl, hword⟩ .nil)))

/-! ### All values of an answer -/

/-- **White space around reported values.** A status that is read from some rows is read from the
rows with white space around their values as well, and says the same, but for two words: a component
is primary, and a server that answers `ON` is read-only, only if no white space was put around the
word. So the health of the node stays the same, unless the quorum asks for what such a word says. -/
theorem readNode_padded {raw raw' answer answer' : List RawRow} {s : NodeStatus}
    (hraw : List.Forall₂ RawRow.Pads raw raw')
    (hanswer : Option.Rel RawRow.Pads answer.head? answer'.head?)
    (h : readNode (.rows raw) (.rows answer) = .ok s) :
    ∃ t, readNode (.rows raw') (.rows answer') = .ok t ∧ s.Pads t ∧
      (t.isPrimary = true ↔ s.isPrimary = true ∧ t.clusterStatus = s.clusterStatus) ∧
      (t.readOnly = true ↔ s.readOnly = true ∧ ¬ SwitchLost answer answer') ∧
      ∀ q : Quorum,
        (q.policy = .primaryComponent → s.isPrimary = true → t.clusterStatus = s.clusterStatus) →
        (q.requireWritable = true → ¬ SwitchLost answer answer') →
        ∀ configured, q.isHealthy t configured = q.isHealthy s configured := by
  obtain ⟨node, hnode, on, hon, rfl⟩ := readNode_rows_eq_ok_iff.mp h
  obtain ⟨node', hnode', hpads⟩ := readStatus_pads hraw hnode
  obtain ⟨on₁, on', hon₁, hon', hswitch⟩ := readReadOnly_pads hanswer
  obtain rfl : on₁ = on := Except.ok.inj (hon₁.symm.trans hon)
  have hwhole : NodeStatus.Pads { node with readOnly := on₁ } { node' with readOnly := on' } :=
    ⟨hpads.syncState, hpads.localState, hpads.clusterSize, hpads.clusterStatus, hpads.localIndex,
      hpads.lastCommitted⟩
  refine ⟨{ node' with readOnly := on' }, ?_, hwhole, hwhole.isPrimary_iff, hswitch, ?_⟩
  · exact readNode_rows_eq_ok_iff.mpr ⟨node', hnode', on', hon', rfl⟩
  · intro q hprimary hwrites configured
    apply hwhole.isHealthy_eq
    · intro hpolicy
      rw [Bool.eq_iff_iff, hwhole.isPrimary_iff]
      exact and_iff_left_of_imp (hprimary hpolicy)
    · intro hq
      rw [Bool.eq_iff_iff, hswitch]
      exact and_iff_left (hwrites hq)

/-- White space around a state, a number and the number of a switch. -/
theorem readNode_padded_numbers :
    ∃ t, readNode (.rows ((healthRows " Synced\n" "\t3" "Primary").map RawRow.sent))
        (.rows [RawRow.sent ("read_only", " 1\n")]) = .ok t ∧
      (primaryOfThree "Synced" "Primary" true).Pads t ∧ t.isPrimary = true ∧ t.readOnly = true ∧
      ∀ (q : Quorum) configured,
        q.isHealthy t configured =
          q.isHealthy (primaryOfThree "Synced" "Primary" true) configured := by
  have hcomment : StatusRow.Pads "Synced" " Synced\n" :=
    StatusRow.pads_of_all [' '] ['\n'] rfl rfl rfl
  have hsize : StatusRow.Pads "3" "\t3" := StatusRow.pads_of_all ['\t'] [] rfl rfl rfl
  have hone : Option.Rel RawRow.Pads [RawRow.sent ("read_only", "1")].head?
      [RawRow.sent ("read_only", " 1\n")].head? :=
    .some (RawRow.pads_sent ⟨rfl, StatusRow.pads_of_all [' '] ['\n'] rfl rfl rfl⟩)
  have hs : readNode (.rows ((healthRows "Synced" "3" "Primary").map RawRow.sent))
      (.rows [RawRow.sent ("read_only", "1")]) = .ok (primaryOfThree "Synced" "Primary" true) :=
    readNode_sent rfl (by decide)
  have ht : readNode (.rows ((healthRows " Synced\n" "\t3" "Primary").map RawRow.sent))
      (.rows [RawRow.sent ("read_only", " 1\n")]) =
        .ok (primaryOfThree " Synced\n" "Primary" true) :=
    readNode_sent rfl (by decide)
  obtain ⟨t, ht', hpads, hprimary, hswitch, hhealth⟩ :=
    readNode_padded (healthRows_pads hcomment hsize (StatusRow.pads_refl "Primary")) hone hs
  obtain rfl : primaryOfThree " Synced\n" "Primary" true = t := Except.ok.inj (ht.symm.trans ht')
  refine ⟨_, ht, hpads, hprimary.mpr ⟨by decide, rfl⟩, rfl, ?_⟩
  intro q configured
  exact hhealth q (fun _ _ => rfl) (fun _ => (hswitch.mp rfl).2) configured

/-- White space around the words for a primary component and for a switch that is on. -/
theorem padded_words_misread :
    ∃ s t, List.Forall₂ RawRow.Pads ((healthRows "Synced" "3" "Primary").map RawRow.sent)
        ((healthRows "Synced" "3" "Primary\n").map RawRow.sent) ∧
      RawRow.Pads (RawRow.sent ("read_only", "ON")) (RawRow.sent ("read_only", " ON")) ∧
      readNode (.rows ((healthRows "Synced" "3" "Primary").map RawRow.sent))
        (.rows [RawRow.sent ("read_only", "ON")]) = .ok s ∧
      readNode (.rows ((healthRows "Synced" "3" "Primary\n").map RawRow.sent))
        (.rows [RawRow.sent ("read_only", " ON")]) = .ok t ∧
      (s.isPrimary = true ∧ t.isPrimary = false) ∧ (s.readOnly = true ∧ t.readOnly = false) ∧
      (Quorum.isHealthy ⟨.primaryComponent, false⟩ s 3 = true ∧
        Quorum.isHealthy ⟨.primaryComponent, false⟩ t 3 = false) ∧
      Quorum.isHealthy ⟨.majority, true⟩ s 3 = false ∧
        Quorum.isHealthy ⟨.majority, true⟩ t 3 = true := by
  have hword : StatusRow.Pads "Primary" "Primary\n" := StatusRow.pads_of_all [] ['\n'] rfl rfl rfl
  have hon : RawRow.Pads (RawRow.sent ("read_only", "ON")) (RawRow.sent ("read_only", " ON")) :=
    RawRow.pads_sent ⟨rfl, StatusRow.pads_of_all [' '] [] rfl rfl rfl⟩
  refine ⟨primaryOfThree "Synced" "Primary" true, primaryOfThree "Synced" "Primary\n" false,
    healthRows_pads (StatusRow.pads_refl _) (StatusRow.pads_refl _) hword,
    hon, readNode_sent rfl (by decide), readNode_sent rfl (by decide), ?_⟩
  decide +kernel

end GaleraHealth
