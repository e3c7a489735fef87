import GaleraHealth.Check.Wiring
import GaleraHealth.Proofs.Coherence
import GaleraHealth.Proofs.TableLines
import GaleraHealth.Summary.Basic

/-!
# Which lines of a summary are its own

The lines of a summary that start with `[CRITICAL]` or `[WARNING]` are what people act on. The
summary writes such lines for the verdict, for the disk issues and for the canary. It also repeats
texts that it did not write, without a look at the line breaks in them.

* `own_critical_parts`, `own_warning_parts`: the marked lines that the summary means to write.
* `forged_parts_iff`: beside the tables, the summary repeats the node that the verdict names, the
  nodes with disk issues, and the canary's reason.
* `ownLinesOnly_iff`: the marked lines are those meant exactly if no repeated text holds a marked
  line after its first.
* `marked_lines_of_run`: the same for a run, whose names all come from the configuration.
-/

namespace GaleraHealth

namespace Summary

open Text (lines firstLine marked own forged startsWith)

/-! ### Marks -/

/-- The mark of lines about a lost primary component. -/
def critical : String := "[CRITICAL]"

/-- The mark of lines about what may become a problem. -/
def warning : String := "[WARNING]"

/-- The lines that a verdict has marked. -/
def criticalLines : Verdict → List String
  | .notNeeded _ => []
  | v => verdictLines v

/-- The lines that the disk issues have marked, and the canary. -/
def warningLines (s : Snapshot) : List String :=
  s.diskIssues.map issueLine ++
    if s.canary = .unhealthy then ["[WARNING] Canary reports replication is unhealthy"] else []

/-- The node that a verdict names. -/
def namedNodes : Verdict → List String
  | .notNeeded node => [node]
  | .bootstrap candidate _ => [candidate]
  | .manualInvestigation => []

/-- The reason that a canary gives. -/
def reasons : Canary → List String
  | .unknown reason => [reason]
  | _ => []

/-- The texts that a summary repeats on lines of its own. -/
def repeated (s : Snapshot) : List String :=
  namedNodes s.verdict ++ s.diskIssues.map DiskIssue.node ++ reasons s.canary

/-- A text that forges no lines: none of its lines after the first is marked. -/
def Harmless (text : String) : Prop := forged critical text = [] ∧ forged warning text = []

/-- The marked lines of a summary are the first lines of what it means to mark, and no others. -/
def OwnLinesOnly (s : Snapshot) : Prop :=
  marked critical (render s) = (criticalLines s.verdict).map firstLine ∧
    marked warning (render s) = (warningLines s).map firstLine

/-- The marks are no different in their shape. -/
structure IsMark (mark : String) : Prop where
  head : mark.toList.head? = some '['
  noBreak : '\n' ∉ mark.toList
  short : mark.toList.length ≤ 10
  plain : ∀ c ∈ [' ', '"', '.', ')'], c ∉ mark.toList

theorem isMark_critical : IsMark critical := by
  refine ⟨by decide, by decide, by decide, ?_⟩
  rw [List.forall_mem_cons, List.forall_mem_cons, List.forall_mem_cons, List.forall_mem_singleton]
  decide

theorem isMark_warning : IsMark warning := by
  refine ⟨by decide, by decide, by decide, ?_⟩
  rw [List.forall_mem_cons, List.forall_mem_cons, List.forall_mem_cons, List.forall_mem_singleton]
  decide

/-! ### The parts of a summary -/

theorem startsWith_of_head {mark text : String} {c : Char} (hmark : IsMark mark)
    (htext : text.toList.head? = some c) (hc : c ≠ '[') : startsWith text mark = false := by
  obtain ⟨rest, hrest⟩ := List.head?_eq_some_iff.mp htext
  obtain ⟨more, hmore⟩ := List.head?_eq_some_iff.mp hmark.head
  have hne : ('[' == c) = false := beq_eq_false_iff_ne.mpr (Ne.symm hc)
  rw [startsWith, hrest, hmore, List.isPrefixOf_cons_cons, hne, Bool.false_and]

theorem startsWith_tableLine {mark l : String} (hmark : IsMark mark) (hl : TableLine l) :
    startsWith l mark = false := by
  obtain ⟨⟨rest, hplus | hbar⟩, -⟩ := hl
  · exact startsWith_of_head hmark (by rw [hplus]; rfl) (by decide)
  · exact startsWith_of_head hmark (by rw [hbar]; rfl) (by decide)

theorem marked_table {mark : String} (hmark : IsMark mark) (t : Table) :
    marked mark t.render = [] := by
  rw [marked, Table.lines_render, List.filter_eq_nil_iff]
  intro l hl
  rw [startsWith_tableLine hmark (Table.tableLine_of_mem hl)]
  exact Bool.false_ne_true

theorem own_table {mark : String} (hmark : IsMark mark) (t : Table) : own mark t.render = [] := by
  have hboth := Text.marked_eq hmark.noBreak t.render
  rw [marked_table hmark] at hboth
  exact (List.append_eq_nil_iff.mp hboth.symm).1

theorem forged_table {mark : String} (hmark : IsMark mark) (t : Table) :
    forged mark t.render = [] := by
  have hboth := Text.marked_eq hmark.noBreak t.render
  rw [marked_table hmark] at hboth
  exact (List.append_eq_nil_iff.mp hboth.symm).2

/-- The parts before the verdict: the time and the tables. -/
def headParts (s : Snapshot) : List String :=
  ["Snapshot taken at " ++ s.takenAt, (nodeTable s).render] ++
    if s.disks.isEmpty then [] else [(diskTable s).render]

theorem parts_eq (s : Snapshot) : parts s =
    headParts s ++ verdictLines s.verdict ++ s.diskIssues.map issueLine ++ canaryLines s.canary :=
  rfl

theorem mem_headParts {s : Snapshot} {p : String} (h : p ∈ headParts s) :
    p = "Snapshot taken at " ++ s.takenAt ∨ ∃ t : Table, p = t.render := by
  rw [headParts, List.mem_append, List.mem_cons, List.mem_singleton] at h
  obtain (htime | htable) | hdisks := h
  · exact .inl htime
  · exact .inr ⟨_, htable⟩
  · split at hdisks
    · cases hdisks
    · exact .inr ⟨_, List.mem_singleton.mp hdisks⟩

/-- The marked lines of a summary are those of its parts. -/
theorem marked_render {mark : String} (hmark : IsMark mark) (s : Snapshot) :
    marked mark (render s) = (parts s).flatMap fun p => own mark p ++ forged mark p := by
  have hne : parts s ≠ [] := by
    rw [parts]
    simp
  have hlast : startsWith "" mark = false := by
    obtain ⟨more, hmore⟩ := List.head?_eq_some_iff.mp hmark.head
    rw [startsWith, hmore]
    rfl
  have hlines : lines (render s) = (parts s).flatMap lines ++ [""] := by
    have hend : render s = "\n".intercalate (parts s) ++ "\n" ++ "" := by
      rw [String.append_empty]
      rfl
    rw [hend, Text.lines_append_break, Text.lines_intercalate hne]
    rfl
  rw [marked, hlines, List.filter_append, List.filter_flatMap]
  have hnothing : [""].filter (startsWith · mark) = [] := by
    rw [List.filter_eq_nil_iff]
    intro l hl
    rw [List.mem_singleton.mp hl, hlast]
    exact Bool.false_ne_true
  rw [hnothing, List.append_nil]
  exact List.flatMap_congr fun p _ => Text.marked_eq hmark.noBreak p

/-! ### The lines that a summary means to mark -/

theorem own_of_not_marked {mark : String} {ps : List String}
    (h : ∀ p ∈ ps, startsWith p mark = false) : ps.flatMap (own mark) = [] := by
  rw [List.flatMap_eq_nil_iff]
  intro p hp
  rw [own, h p hp]
  rfl

theorem own_of_marked {mark : String} {ps : List String}
    (h : ∀ p ∈ ps, startsWith p mark = true) : ps.flatMap (own mark) = ps.map firstLine := by
  have hown : ∀ p ∈ ps, own mark p = [firstLine p] := by
    intro p hp
    rw [own, h p hp]
    rfl
  rw [List.flatMap_congr hown, ← List.map_eq_flatMap]

theorem startsWith_headParts {mark : String} (hmark : IsMark mark) (s : Snapshot) :
    ∀ p ∈ headParts s, startsWith p mark = false := by
  intro p hp
  obtain htime | ⟨t, htable⟩ := mem_headParts hp
  · exact startsWith_of_head hmark (by rw [htime, String.toList_append]; rfl) (c := 'S') (by decide)
  · have hown := own_table hmark t
    rw [own, ← htable] at hown
    split at hown
    · cases hown
    · rename_i h
      rwa [Bool.not_eq_true] at h

theorem startsWith_criticalLines {v : Verdict} {l : String} (h : l ∈ criticalLines v) :
    startsWith l critical = true ∧ startsWith l warning = false := by
  cases v with
  | notNeeded node => cases h
  | manualInvestigation =>
    have hall : ∀ l ∈ criticalLines .manualInvestigation,
        startsWith l critical = true ∧ startsWith l warning = false := by decide
    exact hall l h
  | bootstrap candidate n =>
    have hcases : l = "[CRITICAL] You must bootstrap the cluster." ∨
        l = "[CRITICAL] Bootstrap node: \"" ++ candidate ++ "\" (seqno " ++
          Decimal.intText n.toInt ++ ")" := by
      simpa [criticalLines, verdictLines] using h
    obtain h | h := hcases
    · rw [h]
      decide
    · have hfront : ∀ mark, IsMark mark →
          startsWith l mark = startsWith "[CRITICAL] Bootstrap node: \"" mark := by
        intro mark hmark
        rw [h, String.append_assoc, String.append_assoc, String.append_assoc]
        exact Text.startsWith_front (Nat.le_trans hmark.short (by decide)) _
      rw [hfront critical isMark_critical, hfront warning isMark_warning]
      decide

/-- The line of a disk issue, around the name of its node. -/
theorem issueLine_eq (i : DiskIssue) : issueLine i =
    ("[WARNING] " ++ i.disk.label ++ " disk usage is very high on node ") ++ i.node ++
      (". Consider re-deploying with larger " ++ i.disk.label ++ " disks.") := by
  show "[WARNING] " ++ i.disk.label ++ " disk usage is very high on node " ++ i.node ++
    ". Consider re-deploying with larger " ++ i.disk.label ++ " disks." = _
  simp only [String.append_assoc]

theorem startsWith_issueLine (i : DiskIssue) :
    startsWith (issueLine i) critical = false ∧ startsWith (issueLine i) warning = true := by
  have hfront : ∀ mark, IsMark mark →
      startsWith (issueLine i) mark = startsWith "[WARNING] " mark := by
    intro mark hmark
    rw [issueLine_eq]
    simp only [String.append_assoc]
    exact Text.startsWith_front hmark.short _
  rw [hfront critical isMark_critical, hfront warning isMark_warning]
  decide

theorem startsWith_canaryLines {mark : String} (hmark : IsMark mark) {c : Canary}
    (hc : c ≠ .unhealthy) : ∀ l ∈ canaryLines c, startsWith l mark = false := by
  cases c with
  | unhealthy => exact absurd rfl hc
  | notConfigured =>
    intro l hl
    cases hl
  | healthy =>
    intro l hl
    rw [List.mem_singleton.mp hl]
    exact startsWith_of_head hmark (c := 'C') (by decide) (by decide)
  | unknown reason =>
    intro l hl
    rw [List.mem_singleton.mp hl]
    exact startsWith_of_head hmark (c := 'C')
      (by rw [String.append_assoc, String.toList_append]; rfl) (by decide)

theorem own_verdictLines (v : Verdict) :
    (verdictLines v).flatMap (own critical) = (criticalLines v).map firstLine ∧
      (verdictLines v).flatMap (own warning) = [] := by
  cases v with
  | notNeeded node =>
    have hnone : ∀ {mark}, IsMark mark → ∀ l ∈ verdictLines (.notNeeded node),
        startsWith l mark = false := by
      intro mark hmark l hl
      rw [List.mem_singleton.mp hl]
      exact startsWith_of_head hmark (c := 'B')
        (by rw [String.append_assoc, String.toList_append]; rfl) (by decide)
    exact ⟨own_of_not_marked (hnone isMark_critical), own_of_not_marked (hnone isMark_warning)⟩
  | bootstrap candidate n =>
    show (criticalLines (.bootstrap candidate n)).flatMap (own critical) = _ ∧
      (criticalLines (.bootstrap candidate n)).flatMap (own warning) = []
    exact ⟨own_of_marked fun l hl => (startsWith_criticalLines hl).1,
      own_of_not_marked fun l hl => (startsWith_criticalLines hl).2⟩
  | manualInvestigation =>
    show (criticalLines .manualInvestigation).flatMap (own critical) = _ ∧
      (criticalLines .manualInvestigation).flatMap (own warning) = []
    exact ⟨own_of_marked fun l hl => (startsWith_criticalLines hl).1,
      own_of_not_marked fun l hl => (startsWith_criticalLines hl).2⟩

theorem own_issueLines (is : List DiskIssue) :
    (is.map issueLine).flatMap (own critical) = [] ∧
      (is.map issueLine).flatMap (own warning) = (is.map issueLine).map firstLine := by
  refine ⟨own_of_not_marked ?_, own_of_marked ?_⟩
  · intro l hl
    obtain ⟨i, -, hi⟩ := List.mem_map.mp hl
    rw [← hi]
    exact (startsWith_issueLine i).1
  · intro l hl
    obtain ⟨i, -, hi⟩ := List.mem_map.mp hl
    rw [← hi]
    exact (startsWith_issueLine i).2

theorem own_canaryLines (c : Canary) : (canaryLines c).flatMap (own critical) = [] ∧
    (canaryLines c).flatMap (own warning) = (if c = .unhealthy then
      ["[WARNING] Canary reports replication is unhealthy"] else []).map firstLine := by
  by_cases hc : c = .unhealthy
  · rw [if_pos hc, hc]
    exact ⟨own_of_not_marked (by decide), own_of_marked (by decide)⟩
  · rw [if_neg hc]
    exact ⟨own_of_not_marked (startsWith_canaryLines isMark_critical hc),
      own_of_not_marked (startsWith_canaryLines isMark_warning hc)⟩

theorem own_critical_parts (s : Snapshot) :
    (parts s).flatMap (own critical) = (criticalLines s.verdict).map firstLine := by
  rw [parts_eq, List.flatMap_append, List.flatMap_append, List.flatMap_append,
    own_of_not_marked (startsWith_headParts isMark_critical s), (own_verdictLines s.verdict).1,
    (own_issueLines s.diskIssues).1, (own_canaryLines s.canary).1, List.nil_append, List.append_nil,
    List.append_nil]

theorem own_warning_parts (s : Snapshot) :
    (parts s).flatMap (own warning) = (warningLines s).map firstLine := by
  rw [parts_eq, List.flatMap_append, List.flatMap_append, List.flatMap_append,
    own_of_not_marked (startsWith_headParts isMark_warning s), (own_verdictLines s.verdict).2,
    (own_issueLines s.diskIssues).2, (own_canaryLines s.canary).2, List.nil_append, List.nil_append,
    warningLines, List.map_append]

/-! ### Forged lines -/

/-- A part that repeats a text forges what the text forges. -/
theorem forged_between {mark front back : String} {d : Char} (hmark : IsMark mark)
    (hfront : '\n' ∉ front.toList) (hback : '\n' ∉ back.toList)
    (hhead : back.toList.head? = some d) (hd : d ∈ [' ', '"', '.', ')']) (text : String) :
    forged mark (front ++ text ++ back) = [] ↔ forged mark text = [] :=
  Text.forged_wrapped_iff hfront hback hhead (hmark.plain d hd) text

theorem no_break_number (n : Int64) : '\n' ∉ (Decimal.intText n.toInt).toList :=
  Decimal.notMem_intText (by decide) (by decide) _

theorem no_break_manualLines : ∀ l ∈ verdictLines .manualInvestigation, '\n' ∉ l.toList := by
  decide

theorem forged_verdictLines {mark : String} (hmark : IsMark mark) (v : Verdict) :
    (∀ l ∈ verdictLines v, forged mark l = []) ↔ ∀ t ∈ namedNodes v, forged mark t = [] := by
  cases v with
  | notNeeded node =>
    rw [verdictLines, namedNodes, List.forall_mem_singleton, List.forall_mem_singleton]
    exact forged_between hmark (by decide) (by decide) (d := ' ') (by decide) (by decide) node
  | bootstrap candidate n =>
    have hback : '\n' ∉ ("\" (seqno " ++ Decimal.intText n.toInt ++ ")").toList := by
      simp only [String.toList_append, List.mem_append, not_or]
      exact ⟨⟨by decide, no_break_number n⟩, by decide⟩
    have hhead : ("\" (seqno " ++ Decimal.intText n.toInt ++ ")").toList.head? = some '"' := by
      rw [String.append_assoc, String.toList_append]
      rfl
    have hfirst : forged mark "[CRITICAL] You must bootstrap the cluster." = [] :=
      Text.forged_of_no_break (by decide) mark
    have hsecond : forged mark ("[CRITICAL] Bootstrap node: \"" ++ candidate ++
        ("\" (seqno " ++ Decimal.intText n.toInt ++ ")")) = [] ↔ forged mark candidate = [] :=
      forged_between hmark (by decide) hback hhead (by decide) candidate
    rw [verdictLines, namedNodes, List.forall_mem_cons, List.forall_mem_singleton,
      List.forall_mem_singleton, ← hsecond, and_iff_right hfirst]
    simp only [String.append_assoc]
  | manualInvestigation =>
    refine ⟨fun _ => List.forall_mem_nil _, fun _ l hl => ?_⟩
    exact Text.forged_of_no_break (no_break_manualLines l hl) mark

theorem forged_issueLine {mark : String} (hmark : IsMark mark) (i : DiskIssue) :
    forged mark (issueLine i) = [] ↔ forged mark i.node = [] := by
  rw [issueLine_eq]
  cases i.disk with
  | persistent =>
    exact forged_between hmark (by decide) (by decide) (d := '.') (by decide) (by decide) i.node
  | ephemeral =>
    exact forged_between hmark (by decide) (by decide) (d := '.') (by decide) (by decide) i.node

theorem forged_canaryLines {mark : String} (hmark : IsMark mark) (c : Canary) :
    (∀ l ∈ canaryLines c, forged mark l = []) ↔ ∀ t ∈ reasons c, forged mark t = [] := by
  have hconstant : (∀ l ∈ canaryLines c, '\n' ∉ l.toList) → reasons c = [] →
      ((∀ l ∈ canaryLines c, forged mark l = []) ↔ ∀ t ∈ reasons c, forged mark t = []) := by
    intro hlines hreasons
    rw [hreasons]
    exact ⟨fun _ => List.forall_mem_nil _,
      fun _ l hl => Text.forged_of_no_break (hlines l hl) mark⟩
  cases c with
  | healthy => exact hconstant (by decide) rfl
  | unhealthy => exact hconstant (by decide) rfl
  | notConfigured => exact hconstant (by decide) rfl
  | unknown reason =>
    rw [canaryLines, reasons, List.forall_mem_singleton, List.forall_mem_singleton]
    exact forged_between hmark (by decide) (by decide) (d := ')') (by decide) (by decide) reason

/-- **What a summary repeats is all that forges lines in it.** -/
theorem forged_parts_iff {mark : String} (hmark : IsMark mark) {s : Snapshot}
    (htime : '\n' ∉ s.takenAt.toList) :
    (∀ p ∈ parts s, forged mark p = []) ↔ ∀ t ∈ repeated s, forged mark t = [] := by
  have hhead : ∀ p ∈ headParts s, forged mark p = [] := by
    intro p hp
    obtain htaken | ⟨t, htable⟩ := mem_headParts hp
    · refine Text.forged_of_no_break ?_ mark
      rw [htaken, String.toList_append, List.mem_append, not_or]
      exact ⟨by decide, htime⟩
    · rw [htable]
      exact forged_table hmark t
  have hissues : (∀ l ∈ s.diskIssues.map issueLine, forged mark l = []) ↔
      ∀ t ∈ s.diskIssues.map DiskIssue.node, forged mark t = [] := by
    rw [List.forall_mem_map, List.forall_mem_map]
    exact forall₂_congr fun i _ => forged_issueLine hmark i
  rw [parts_eq, repeated, List.forall_mem_append, List.forall_mem_append, List.forall_mem_append,
    List.forall_mem_append, List.forall_mem_append, forged_verdictLines hmark, hissues,
    forged_canaryLines hmark, and_iff_right hhead]

theorem marked_eq_own_iff {mark : String} (hmark : IsMark mark) {s : Snapshot}
    (htime : '\n' ∉ s.takenAt.toList) :
    marked mark (render s) = (parts s).flatMap (own mark) ↔
      ∀ t ∈ repeated s, forged mark t = [] := by
  rw [marked_render hmark, Text.flatMap_append_eq_iff, forged_parts_iff hmark htime]

/-- **The marked lines of a summary are its own** exactly if what it repeats is harmless. -/
theorem ownLinesOnly_iff {s : Snapshot} (htime : '\n' ∉ s.takenAt.toList) :
    OwnLinesOnly s ↔ ∀ t ∈ repeated s, Harmless t := by
  rw [OwnLinesOnly, ← own_critical_parts, ← own_warning_parts,
    marked_eq_own_iff isMark_critical htime, marked_eq_own_iff isMark_warning htime]
  exact forall₂_and.symm

/-! ### Summaries of runs -/

theorem firstLines_of_no_break {ls : List String} (h : ∀ l ∈ ls, '\n' ∉ l.toList) :
    ls.map firstLine = ls := by
  have hfirst : ∀ l ∈ ls, firstLine l = l := fun l hl => Text.firstLine_of_no_break (h l hl)
  rw [List.map_congr_left hfirst, List.map_id']

theorem no_break_criticalLines {v : Verdict} (h : ∀ t ∈ namedNodes v, '\n' ∉ t.toList) :
    ∀ l ∈ criticalLines v, '\n' ∉ l.toList := by
  cases v with
  | notNeeded node => exact List.forall_mem_nil _
  | manualInvestigation => exact no_break_manualLines
  | bootstrap candidate n =>
    have hcandidate := h candidate List.mem_cons_self
    show ∀ l ∈ verdictLines (.bootstrap candidate n), '\n' ∉ l.toList
    rw [verdictLines, List.forall_mem_cons, List.forall_mem_singleton]
    refine ⟨by decide, ?_⟩
    simp only [String.toList_append, List.mem_append, not_or]
    exact ⟨⟨⟨⟨by decide, hcandidate⟩, by decide⟩, no_break_number n⟩, by decide⟩

theorem no_break_warningLines {s : Snapshot} (h : ∀ i ∈ s.diskIssues, '\n' ∉ i.node.toList) :
    ∀ l ∈ warningLines s, '\n' ∉ l.toList := by
  have hlabel : ∀ k : DiskKind, '\n' ∉ k.label.toList := by
    intro k
    cases k <;> decide
  rw [warningLines, List.forall_mem_append, List.forall_mem_map]
  refine ⟨?_, ?_⟩
  · intro i hi
    rw [issueLine_eq]
    simp only [String.toList_append, List.mem_append, not_or]
    exact ⟨⟨⟨⟨by decide, hlabel _⟩, by decide⟩, h i hi⟩, ⟨by decide, hlabel _⟩, by decide⟩
  · split
    · decide
    · exact List.forall_mem_nil _

/-- A verdict names a node of the reports that it is made of. -/
theorem exists_report_of_named {q : Quorum} {reports : List NodeReport} {t : String}
    (h : t ∈ namedNodes (Verdict.decide q reports)) : ∃ r ∈ reports, t = r.node.identity := by
  have hverdict := Verdict.isVerdict_decide q reports
  cases hdecide : Verdict.decide q reports with
  | manualInvestigation =>
    rw [hdecide] at h
    cases h
  | notNeeded node =>
    rw [hdecide] at h hverdict
    rw [List.mem_singleton.mp h]
    cases hverdict with
    | notNeeded hfirst => exact ⟨_, hfirst.mem, rfl⟩
  | bootstrap candidate n =>
    rw [hdecide] at h hverdict
    rw [List.mem_singleton.mp h]
    cases hverdict with
    | bootstrap _ hfirst _ => exact ⟨_, hfirst.mem, rfl⟩

section Run

variable (c : CheckedConfig) (sources : Sources) (outside : Option Nat) (takenAt : String)

theorem named_run {t : String}
    (h : t ∈ namedNodes (c.run sources outside takenAt).snapshot.verdict) :
    ∃ n ∈ c.config.nodes, t = n.identity := by
  obtain ⟨r, hr, ht⟩ := exists_report_of_named h
  refine ⟨r.node, ?_, ht⟩
  rw [← c.nodes_run sources outside takenAt]
  exact List.mem_map_of_mem hr

theorem issue_run {i : DiskIssue} (h : i ∈ (c.run sources outside takenAt).snapshot.diskIssues) :
    ∃ n ∈ c.config.nodes, i.node = n.identity := by
  obtain ⟨d, hd, p, -, hname, -⟩ := (mem_diskIssues_iff _ _ i).mp h
  have hnode : d.node ∈ if sources.disk.isSome then c.config.nodes else [] := by
    rw [← c.disks_run sources outside takenAt]
    exact List.mem_map_of_mem hd
  split at hnode
  · exact ⟨d.node, hnode, hname⟩
  · cases hnode

/-- What the summary of a run repeats are names from the configuration, and the canary's reason.
Nothing that a database or an agent says is among it. -/
theorem repeated_run {t : String} (h : t ∈ repeated (c.run sources outside takenAt).snapshot) :
    (∃ n ∈ c.config.nodes, t = n.identity) ∨
      (c.run sources outside takenAt).snapshot.canary = .unknown t := by
  rw [repeated, List.mem_append, List.mem_append] at h
  obtain (hverdict | hissue) | hreason := h
  · exact .inl (named_run c sources outside takenAt hverdict)
  · obtain ⟨i, hi, ht⟩ := List.mem_map.mp hissue
    rw [← ht]
    exact .inl (issue_run c sources outside takenAt hi)
  · right
    cases hcanary : (c.run sources outside takenAt).snapshot.canary with
    | unknown reason =>
      rw [hcanary] at hreason
      rw [List.mem_singleton.mp hreason]
    | _ =>
      rw [hcanary] at hreason
      cases hreason

end Run

/-- **The marked lines of a summary.** The summary of a run repeats names from the configuration and
the canary's reason. Its marked lines are the first lines of what it means to mark exactly if these
are harmless. If the names hold no line break and the reason is harmless, they are all that it means
to mark. -/
theorem marked_lines_of_run (c : CheckedConfig) (sources : Sources) (outside : Option Nat)
    {takenAt : String} (htime : '\n' ∉ takenAt.toList) :
    let s := (c.run sources outside takenAt).snapshot
    (∀ t ∈ repeated s, (∃ n ∈ c.config.nodes, t = n.identity) ∨ s.canary = .unknown t) ∧
    (OwnLinesOnly s ↔ ∀ t ∈ repeated s, Harmless t) ∧
    ((∀ n ∈ c.config.nodes, '\n' ∉ n.identity.toList) →
      (∀ reason, s.canary = .unknown reason → Harmless reason) →
      marked critical (render s) = criticalLines s.verdict ∧
        marked warning (render s) = warningLines s) := by
  intro s
  have hrepeated : ∀ t ∈ repeated s, (∃ n ∈ c.config.nodes, t = n.identity) ∨
      s.canary = .unknown t := fun t ht => repeated_run c sources outside takenAt ht
  have hown : OwnLinesOnly s ↔ ∀ t ∈ repeated s, Harmless t := ownLinesOnly_iff htime
  refine ⟨hrepeated, hown, ?_⟩
  intro hnames hreason
  have hharmless : ∀ t ∈ repeated s, Harmless t := by
    intro t ht
    obtain ⟨n, hn, hname⟩ | hcanary := hrepeated t ht
    · rw [hname]
      exact ⟨Text.forged_of_no_break (hnames n hn) _, Text.forged_of_no_break (hnames n hn) _⟩
    · exact hreason t hcanary
  have hnamed : ∀ t ∈ namedNodes s.verdict, '\n' ∉ t.toList := by
    intro t ht
    obtain ⟨n, hn, hname⟩ := named_run c sources outside takenAt ht
    rw [hname]
    exact hnames n hn
  have hissues : ∀ i ∈ s.diskIssues, '\n' ∉ i.node.toList := by
    intro i hi
    obtain ⟨n, hn, hname⟩ := issue_run c sources outside takenAt hi
    rw [hname]
    exact hnames n hn
  obtain ⟨hcritical, hwarning⟩ := hown.mpr hharmless
  rw [hcritical, hwarning, firstLines_of_no_break (no_break_criticalLines hnamed),
    firstLines_of_no_break (no_break_warningLines hissues)]
  exact ⟨rfl, rfl⟩

theorem marked_lines_of_pair :
    '\n' ∉ "2024-01-01T00:00:00+00:00".toList ∧
      let s := ((CheckedConfig.mk pairConfig .standard).run pairSources (some 30000)
        "2024-01-01T00:00:00+00:00").snapshot
      marked critical (render s) = ["[CRITICAL] You must bootstrap the cluster.",
        "[CRITICAL] Bootstrap node: \"mysql/a\" (seqno 12)"] ∧
      marked warning (render s) = warningLines s := by
  have htime : '\n' ∉ "2024-01-01T00:00:00+00:00".toList := by decide
  have hverdict : ((CheckedConfig.mk pairConfig .standard).run pairSources (some 30000)
      "2024-01-01T00:00:00+00:00").snapshot.verdict = .bootstrap "mysql/a" 12 := by
    decide +kernel
  obtain ⟨-, -, hlines⟩ :=
    marked_lines_of_run (CheckedConfig.mk pairConfig .standard) pairSources (some 30000) htime
  obtain ⟨hcritical, hwarning⟩ := hlines (by decide) (by nofun)
  refine ⟨htime, ?_, hwarning⟩
  rw [hcritical, hverdict]
  decide

/-! ### A forged line -/

/-- One node without agents, and a canary. -/
def canaryConfig : ClusterConfig where
  database :=
    { username := "diag", password := "secret", port := 3306, agent := none
      thresholds := .standard
      nodes := [⟨"10.0.0.1", "mysql", "a", none⟩] }
  galeraAgent := none
  canary := some ⟨"canary", "secret", 80, "canary"⟩
  timeouts := .standard
  quorum := .standard

/-- The error that the canary answers. -/
def forgingText : String := "down\n[CRITICAL] You must bootstrap the cluster."

/-- The bytes of that error. -/
def forgingBody : List UInt8 := forgingText.toUTF8.data.toList

/-- The reason that comes of it. -/
def forgingReason : String :=
  "agent unavailable: Unexpected status code: 500 (" ++ forgingText ++ ")"

/-- A healthy node, and a canary that answers with an error of two lines. -/
def forgingPeers : Peers where
  toSurroundings :=
    { Surroundings.unreachable with link := .up, reply := fun _ _ => .answered 500 forgingBody }
  database _ _ := .listening .fine
    (.rows [(some "wsrep_local_state_comment".toUTF8.data.toList, some "Synced".toUTF8.data.toList),
      (some "wsrep_cluster_status".toUTF8.data.toList, some "Primary".toUTF8.data.toList)]) .fine

section Examples

attribute [local instance] Net.NameTable.empty

theorem canary_of_forgingPeers :
    ((CheckedConfig.mk canaryConfig .standard).diagnose forgingPeers none "").snapshot.canary =
      .unknown forgingReason := by
  have hask : CanarySettings.askHealth ⟨"canary", "secret", 80, "canary"⟩ CanarySettings.limit
      forgingPeers.toSurroundings = .after 0 (.error
        ⟨.agentUnavailable, (FetchFault.badStatus 500 forgingBody).message⟩) := by
    have hok : (CanarySettings.endpoint ⟨"canary", "secret", 80, "canary"⟩
        forgingPeers.toSurroundings).isOk = true := by decide +kernel
    rw [CanarySettings.askHealth]
    cases hendpoint : CanarySettings.endpoint ⟨"canary", "secret", 80, "canary"⟩
        forgingPeers.toSurroundings with
    | error f =>
      rw [hendpoint] at hok
      cases hok
    | ok e => rfl
  show (checkCanary (CanarySettings.askHealth ⟨"canary", "secret", 80, "canary"⟩
    CanarySettings.limit forgingPeers.toSurroundings) 60000).1 = _
  rw [hask]
  decide +kernel

/-- A bootstrap is not necessary, and the summary has a line that says it is. -/
theorem canary_forges_a_line :
    canaryConfig.checked = .ok ⟨canaryConfig, .standard⟩ ∧
      let s := ((CheckedConfig.mk canaryConfig .standard).diagnose forgingPeers none "").snapshot
      s.verdict = .notNeeded "mysql/a" ∧ criticalLines s.verdict = [] ∧
        marked critical (render s) ≠ [] := by
  have hchecked : canaryConfig.checked = .ok ⟨canaryConfig, .standard⟩ := by
    rw [checked_eq_ok_iff]
    exact ⟨⟨rfl, rfl, rfl, rfl, rfl, rfl, rfl, rfl, rfl, rfl, rfl, rfl⟩, rfl, rfl⟩
  have hverdict : ((CheckedConfig.mk canaryConfig .standard).diagnose forgingPeers none
      "").snapshot.verdict = .notNeeded "mysql/a" := by decide +kernel
  refine ⟨hchecked, hverdict, by rw [hverdict]; rfl, ?_⟩
  intro hnone
  have hown := own_critical_parts
    ((CheckedConfig.mk canaryConfig .standard).diagnose forgingPeers none "").snapshot
  rw [hverdict] at hown
  have hforged := (marked_eq_own_iff isMark_critical (by decide)).mp (hnone.trans hown.symm)
  have hreason := hforged forgingReason (by
    rw [repeated, canary_of_forgingPeers]
    exact List.mem_append_right _ List.mem_cons_self)
  revert hreason
  decide

end Examples

end Summary

end GaleraHealth
