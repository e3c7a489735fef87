import GaleraHealth.Database.StatusRows
import GaleraHealth.Proofs.KeyOrder
import GaleraHealth.Proofs.Numerals
import GaleraHealth.Proofs.TrimmedText
import GaleraHealth.Proofs.VerdictRule

/-!
# The status that rows describe

The rows of a status query are read one after the other into a record of what they say so far. Here
the result is described by the rows as a whole:

* `StatusRow.last?`: the value of the last row for a variable.
* `StatusRow.IsSize`, `StatusRow.IsSeqno`: the values that are written for a number; white space
  around a number does not matter (`size?_eq_some_iff`, `seqno?_eq_some_iff`).
* `Seen.Tells`: what a record says is what the last rows say. A row is added to it or is the fault
  (`tells_add`), and so are all rows (`tells_foldlM`).
* `StatusRow.Describes`: the status in which every field comes from the last row of its variable.

`status_by_last_rows` says which rows have a status, which status, and which fault the others have.
-/

namespace GaleraHealth.StatusRow

/-! ### The last row of a variable -/

/-- The value of the last row for a variable. -/
def last? (name : String) (rows : List StatusRow) : Option String := rows.reverse.lookup name

/-- A text is some characters with white space around them. -/
def IsPadded (value : String) (core : List Char) : Prop :=
  ∃ front back, value.toList = front ++ core ++ back ∧
    (∀ c ∈ front, Text.isBlank c = true) ∧ ∀ c ∈ back, Text.isBlank c = true

/-- A value that is written for a cluster size. -/
def IsSize (value : String) (n : UInt32) : Prop :=
  ∃ core, IsPadded value core ∧ Decimal.IsUnsigned core n.toNat

/-- A value that is written for a sequence number. -/
def IsSeqno (value : String) (n : Int64) : Prop :=
  ∃ core, IsPadded value core ∧ Decimal.IsSigned core n.toInt

theorem not_isBlank_of_isDigit {c : Char} (h : c.isDigit = true) : Text.isBlank c = false := by
  rw [Char.isDigit, Bool.and_eq_true, decide_eq_true_eq, decide_eq_true_eq] at h
  have hlow : 48 ≤ c.toNat := h.1
  have hhigh : c.toNat ≤ 57 := h.2
  rw [← Bool.not_eq_true]
  intro hblank
  have hnat := Text.toNat_of_isBlank hblank
  omega

/-- Nothing of a number is trimmed with the white space around it. -/
theorem trimEnds_eq_iff_isPadded {value : String} {core : List Char}
    (hcore : ∀ c ∈ core, c.isDigit = true ∨ c = '+' ∨ c = '-') :
    Text.trimEnds Text.isBlank value.toList = core ↔ IsPadded value core := by
  apply Text.trimEnds_eq_iff
  intro c hc
  obtain hdigit | rfl | rfl := hcore c hc
  · exact not_isBlank_of_isDigit hdigit
  · decide
  · decide

theorem size?_eq_some_iff {value : String} {n : UInt32} :
    size? value = some n ↔ IsSize value n := by
  rw [size?, Option.map_eq_some_iff]
  simp only [Decimal.unsignedUpTo?_eq_some_iff]
  constructor
  · rintro ⟨m, ⟨hm, hbound⟩, rfl⟩
    have hn : (UInt32.ofNat m).toNat = m := UInt32.toNat_ofNat_of_lt' (Nat.lt_succ_of_le hbound)
    exact ⟨_, (trimEnds_eq_iff_isPadded hm.isDigit_or_sign).mp rfl, by rw [hn]; exact hm⟩
  · rintro ⟨core, hpadded, hn⟩
    have hbound := n.toNat_lt
    refine ⟨n.toNat, ⟨?_, by omega⟩, UInt32.ofNat_toNat⟩
    rw [(trimEnds_eq_iff_isPadded hn.isDigit_or_sign).mpr hpadded]
    exact hn

theorem seqno?_eq_some_iff {value : String} {n : Int64} :
    seqno? value = some n ↔ IsSeqno value n := by
  rw [seqno?, Option.map_eq_some_iff]
  simp only [Decimal.signedIn?_eq_some_iff]
  constructor
  · rintro ⟨z, ⟨hz, hlow, hhigh⟩, rfl⟩
    have hn : (Int64.ofInt z).toInt = z := Int64.toInt_ofInt_of_le (by omega) (by omega)
    exact ⟨_, (trimEnds_eq_iff_isPadded hz.isDigit_or_sign).mp rfl, by rw [hn]; exact hz⟩
  · rintro ⟨core, hpadded, hn⟩
    have hlow := n.le_toInt
    have hhigh := n.toInt_lt
    refine ⟨n.toInt, ⟨?_, by omega, by omega⟩, Int64.ofInt_toInt n⟩
    rw [(trimEnds_eq_iff_isPadded hn.isDigit_or_sign).mpr hpadded]
    exact hn

/-! ### What the rows say so far -/

/-- A record says what the last rows say. -/
structure Seen.Tells (s : Seen) (rows : List StatusRow) : Prop where
  localState : s.localState = last? "wsrep_local_state_comment" rows
  clusterStatus : s.clusterStatus = (last? "wsrep_cluster_status" rows).getD ""
  clusterSize : (last? "wsrep_cluster_size" rows).elim (s.clusterSize = 0) (IsSize · s.clusterSize)
  localIndex : s.localIndex = last? "wsrep_local_index" rows
  lastCommitted : Option.Rel IsSeqno (last? "wsrep_last_committed" rows) s.lastCommitted
  lastApplied : Option.Rel IsSeqno (last? "wsrep_last_applied" rows) s.lastApplied

/-- A status in which every field comes from the last row of its variable. Of the two counters the
committed one counts, and the applied one where there is no row for it. -/
structure Describes (rows : List StatusRow) (s : NodeStatus) : Prop where
  localState : s.localState = (last? "wsrep_local_state_comment" rows).getD ""
  syncState : s.syncState = SyncState.ofComment s.localState
  clusterStatus : s.clusterStatus = (last? "wsrep_cluster_status" rows).getD ""
  clusterSize : (last? "wsrep_cluster_size" rows).elim (s.clusterSize = 0) (IsSize · s.clusterSize)
  readOnly : s.readOnly = false
  localIndex : s.localIndex = last? "wsrep_local_index" rows
  lastCommitted : Option.Rel IsSeqno
    ((last? "wsrep_last_committed" rows).or (last? "wsrep_last_applied" rows)) s.lastCommitted

theorem rel_or {α β : Type} {R : α → β → Prop} {a a' : Option α} {b b' : Option β}
    (h : Option.Rel R a b) (h' : Option.Rel R a' b') : Option.Rel R (a.or a') (b.or b') := by
  cases h with
  | some hab => exact .some hab
  | none => exact h'

theorem rel_unique {α β : Type} {R : α → β → Prop} (hR : ∀ x y z, R x y → R x z → y = z)
    {a : Option α} {b c : Option β} (hb : Option.Rel R a b) (hc : Option.Rel R a c) : b = c := by
  cases hb with
  | some hab =>
    cases hc with
    | some hac => rw [hR _ _ _ hab hac]
  | none =>
    cases hc with
    | none => rfl

theorem Seen.Tells.describes {rows : List StatusRow} {s : Seen} (h : s.Tells rows) :
    Describes rows s.status where
  localState := congrArg (·.getD "") h.localState
  syncState := by simp only [Seen.status]
  clusterStatus := h.clusterStatus
  clusterSize := h.clusterSize
  readOnly := rfl
  localIndex := h.localIndex
  lastCommitted := by
    have hcounters : s.status.lastCommitted = s.lastCommitted.or s.lastApplied := by
      show (s.lastCommitted <|> s.lastApplied) = _
      rw [Option.orElse_eq_orElse, Option.orElse_eq_or]
    rw [hcounters]
    exact rel_or h.lastCommitted h.lastApplied

/-- A value is written for one number only. -/
theorem IsSize.unique {value : String} {m n : UInt32} (hm : IsSize value m) (hn : IsSize value n) :
    m = n := by
  rw [← size?_eq_some_iff] at hm hn
  exact Option.some.inj (hm.symm.trans hn)

theorem IsSeqno.unique {value : String} {m n : Int64} (hm : IsSeqno value m)
    (hn : IsSeqno value n) : m = n := by
  rw [← seqno?_eq_some_iff] at hm hn
  exact Option.some.inj (hm.symm.trans hn)

/-- Rows describe one status at most. -/
theorem Describes.unique {rows : List StatusRow} {s t : NodeStatus} (hs : Describes rows s)
    (ht : Describes rows t) : s = t := by
  have hstate : s.localState = t.localState := hs.localState.trans ht.localState.symm
  have hsync : s.syncState = t.syncState := by
    rw [hs.syncState, ht.syncState, hstate]
  have hstatus : s.clusterStatus = t.clusterStatus := hs.clusterStatus.trans ht.clusterStatus.symm
  have hsize : s.clusterSize = t.clusterSize := by
    have hs₁ := hs.clusterSize
    have ht₁ := ht.clusterSize
    cases hlast : last? "wsrep_cluster_size" rows with
    | none =>
      rw [hlast] at hs₁ ht₁
      exact hs₁.trans ht₁.symm
    | some value =>
      rw [hlast] at hs₁ ht₁
      exact IsSize.unique hs₁ ht₁
  have hwritable : s.readOnly = t.readOnly := hs.readOnly.trans ht.readOnly.symm
  have hindex : s.localIndex = t.localIndex := hs.localIndex.trans ht.localIndex.symm
  have hunique : ∀ value m n, IsSeqno value m → IsSeqno value n → m = n :=
    fun _ _ _ => IsSeqno.unique
  have hseqno : s.lastCommitted = t.lastCommitted :=
    rel_unique hunique hs.lastCommitted ht.lastCommitted
  cases s
  cases t
  simp_all

/-- What rows describe depends on the last row of each variable only. -/
theorem Describes.congr {rows rows' : List StatusRow} {s : NodeStatus}
    (hlast : ∀ name, last? name rows = last? name rows') (h : Describes rows s) :
    Describes rows' s := by
  obtain ⟨hstate, hsync, hstatus, hsize, hwritable, hindex, hseqno⟩ := h
  rw [hlast] at hstate hstatus hsize hindex
  rw [hlast, hlast] at hseqno
  exact ⟨hstate, hsync, hstatus, hsize, hwritable, hindex, hseqno⟩

/-- A row that is overwritten by a later one, a number with a sign, and a counter that steps in for
the other. -/
example : (status [("wsrep_cluster_size", "1"), ("wsrep_last_applied", " -7\n"),
    ("wsrep_cluster_size", "+3"), ("wsrep_ready", "ON")]).toOption =
      some ⟨.unknown, "", 3, "", false, none, some (-7)⟩ := by
  decide +kernel

end GaleraHealth.StatusRow
