import GaleraHealth.Proofs.DoubleRounding
import GaleraHealth.Proofs.OffendingDisks

/-!
# Shares in use

A share is a quotient of two doubles, and each of them is a word that may have been rounded. It is a
proper fraction all the same, because rounding keeps the order, and the two ends are met exactly: an
unused total has the share zero, a full one the share one.

* `quotient_le`, `zero_lt_quotient`: quotients of words over the same word.
* `share_of_le`, `zero_lt_share`, `share_le_one`, `share_le_share`: the same for what is in use.
* `ProperShare`, `properShare`: what is known of the share of any total.
* `DiskUsage.InUse`, `offends_zero_iff`, `not_offends_one`: the disks above the least and the
  greatest threshold.
* `Thresholds.Raised`, `Offends.of_raised`: higher thresholds.
* `issues_between_thresholds`: the issues of a cluster.
-/

namespace GaleraHealth

open Double

/-! ### Quotients of words -/

theorem zero_quotient_word {b : UInt64} (hb : b ≠ 0) : (0 : UInt64).toFloat / b.toFloat = 0.0 := by
  obtain ⟨n, f, hparts, -⟩ := exists_parts_toFloat hb
  rw [zero_toFloat]
  exact zero_quotient hparts

theorem zero_lt_quotient {a b : UInt64} (ha : a ≠ 0) (hb : b ≠ 0) :
    0.0 < a.toFloat / b.toFloat := by
  obtain ⟨m, e, hparts, hlow, hhigh, -⟩ := exists_parts_toFloat ha
  obtain ⟨n, f, hparts', hlow', hhigh', -⟩ := exists_parts_toFloat hb
  obtain ⟨q, g, hquotient, -⟩ := exists_parts_div hparts hparts' (by omega) (by omega)
  exact hquotient.zero_lt

theorem quotient_word_self {b : UInt64} (hb : b ≠ 0) : b.toFloat / b.toFloat = 1.0 := by
  obtain ⟨n, f, hparts, -⟩ := exists_parts_toFloat hb
  exact quotient_self hparts

theorem quotient_le {a a' b : UInt64} (hb : b ≠ 0) (h : a ≤ a') :
    a.toFloat / b.toFloat ≤ a'.toFloat / b.toFloat := by
  by_cases ha : a = 0
  · rw [ha, zero_quotient_word hb]
    by_cases ha' : a' = 0
    · rw [ha', zero_quotient_word hb]
      exact zero_le_zero
    · exact le_of_lt (zero_lt_quotient ha' hb)
  · have ha' : a' ≠ 0 := by
      rintro rfl
      exact ha (UInt64.le_antisymm h UInt64.zero_le)
    obtain ⟨m, e, hparts, hlow, hhigh, -⟩ := exists_parts_toFloat ha
    obtain ⟨m', e', hparts', hlow', hhigh', -⟩ := exists_parts_toFloat ha'
    obtain ⟨n, f, hparts'', hlow'', hhigh'', -⟩ := exists_parts_toFloat hb
    exact quotient_le_quotient hparts hparts' hparts'' (toFloat_le h) (by omega) (by omega)
      (by omega) (by omega)

/-! ### What is in use -/

theorem share_eq (total free : UInt64) :
    share total free = (used total free).toFloat / total.toFloat := by
  rw [share, ← used_toNat, UInt64.ofNat_toNat]

theorem used_eq_zero_iff (total free : UInt64) : used total free = 0 ↔ total ≤ free := by
  rw [← UInt64.toNat_inj, used_toNat, UInt64.le_iff_toNat_le]
  exact Nat.sub_eq_zero_iff_le

theorem used_le (total free : UInt64) : used total free ≤ total := by
  rw [UInt64.le_iff_toNat_le, used_toNat]
  exact Nat.sub_le total.toNat free.toNat

theorem used_le_used (total : UInt64) {free free' : UInt64} (h : free ≤ free') :
    used total free' ≤ used total free := by
  rw [UInt64.le_iff_toNat_le] at h ⊢
  rw [used_toNat, used_toNat]
  omega

theorem share_of_le {total free : UInt64} (htotal : total ≠ 0) (h : total ≤ free) :
    share total free = 0.0 := by
  rw [share_eq, (used_eq_zero_iff total free).mpr h, zero_quotient_word htotal]

theorem zero_lt_share {total free : UInt64} (h : free < total) : 0.0 < share total free := by
  have hused : used total free ≠ 0 := by
    rw [ne_eq, used_eq_zero_iff]
    exact UInt64.not_le.mpr h
  have htotal : total ≠ 0 := by
    rintro rfl
    exact UInt64.not_lt_zero h
  rw [share_eq]
  exact zero_lt_quotient hused htotal

theorem zero_lt_share_iff {total free : UInt64} (htotal : total ≠ 0) :
    0.0 < share total free ↔ free < total := by
  refine ⟨fun hpos => ?_, zero_lt_share⟩
  by_contra hle
  rw [share_of_le htotal (UInt64.not_lt.mp hle)] at hpos
  exact not_lt_of_le zero_le_zero hpos

theorem share_le_one {total : UInt64} (htotal : total ≠ 0) (free : UInt64) :
    share total free ≤ 1.0 := by
  rw [share_eq, ← quotient_word_self htotal]
  exact quotient_le htotal (used_le total free)

theorem zero_le_share {total : UInt64} (htotal : total ≠ 0) (free : UInt64) :
    0.0 ≤ share total free := by
  rw [share_eq, ← zero_quotient_word htotal]
  exact quotient_le htotal UInt64.zero_le

theorem share_le_share {total free free' : UInt64} (htotal : total ≠ 0) (h : free ≤ free') :
    share total free' ≤ share total free := by
  rw [share_eq, share_eq]
  exact quotient_le htotal (used_le_used total h)

/-- What is known of the share in use of a total. -/
structure ProperShare (total free : UInt64) : Prop where
  missing : usedFraction? total free = none ↔ total = 0
  range : ∀ x ∈ usedFraction? total free, 0.0 ≤ x ∧ x ≤ 1.0
  zero : ∀ x ∈ usedFraction? total free, x = 0.0 ↔ total ≤ free
  falling : ∀ free', free ≤ free' → ∀ x ∈ usedFraction? total free,
    ∀ y ∈ usedFraction? total free', y ≤ x

theorem mem_usedFraction?_iff {total free : UInt64} {x : Float} :
    x ∈ usedFraction? total free ↔ total ≠ 0 ∧ x = share total free := by
  rw [usedFraction?_eq]
  by_cases h : total = 0
  · simp [h]
  · simp [h, eq_comm]

theorem properShare (total free : UInt64) : ProperShare total free where
  missing := by
    rw [usedFraction?_eq]
    simp
  range := by
    intro x hx
    obtain ⟨htotal, rfl⟩ := mem_usedFraction?_iff.mp hx
    exact ⟨zero_le_share htotal free, share_le_one htotal free⟩
  zero := by
    intro x hx
    obtain ⟨htotal, rfl⟩ := mem_usedFraction?_iff.mp hx
    refine ⟨fun hzero => ?_, share_of_le htotal⟩
    by_contra hlt
    have hpos := zero_lt_share (UInt64.not_le.mp hlt)
    rw [hzero] at hpos
    exact not_lt_of_le zero_le_zero hpos
  falling := by
    intro free' hfree x hx y hy
    obtain ⟨htotal, rfl⟩ := mem_usedFraction?_iff.mp hx
    obtain ⟨-, rfl⟩ := mem_usedFraction?_iff.mp hy
    exact share_le_share htotal hfree

/-! ### Disks and thresholds -/

/-- A disk with bytes of which something is in use, be it bytes or inodes. -/
def DiskUsage.InUse (d : DiskUsage) : Prop :=
  d.bytesTotal ≠ 0 ∧ (d.bytesFree < d.bytesTotal ∨ d.inodesTotal ≠ 0 ∧ d.inodesFree < d.inodesTotal)

instance (d : DiskUsage) : Decidable d.InUse :=
  inferInstanceAs (Decidable (_ ∧ _))

/-- Thresholds of which either may have been raised. -/
def Thresholds.Raised (t t' : Thresholds) : Prop :=
  (t.bytes = t'.bytes ∨ t.bytes ≤ t'.bytes) ∧ (t.inodes = t'.inodes ∨ t.inodes ≤ t'.inodes)

namespace DiskUsage

theorem offends_zero_iff (d : DiskUsage) : d.Offends ⟨0.0, 0.0⟩ ↔ d.InUse := by
  unfold Offends InUse
  refine and_congr_right fun hbytes => or_congr (zero_lt_share_iff hbytes) ?_
  exact and_congr_right fun hinodes => zero_lt_share_iff hinodes

theorem not_offends_one (d : DiskUsage) : ¬ d.Offends ⟨1.0, 1.0⟩ := by
  rintro ⟨hbytes, habove | ⟨hinodes, habove⟩⟩
  · exact not_lt_of_le (share_le_one hbytes _) habove
  · exact not_lt_of_le (share_le_one hinodes _) habove

end DiskUsage

theorem lt_of_raised {x y z : Float} (h : x = y ∨ x ≤ y) (hlt : y < z) : x < z := by
  rcases h with rfl | hle
  · exact hlt
  · exact lt_of_le_of_lt hle hlt

theorem DiskUsage.Offends.of_raised {t t' : Thresholds} {d : DiskUsage} (ht : t.Raised t')
    (h : d.Offends t') : d.Offends t := by
  obtain ⟨hbytes, habove | ⟨hinodes, habove⟩⟩ := h
  · exact ⟨hbytes, .inl (lt_of_raised ht.1 habove)⟩
  · exact ⟨hbytes, .inr ⟨hinodes, lt_of_raised ht.2 habove⟩⟩

/-! ### The issues of a cluster -/

theorem diskIssues_eq (t : Thresholds) (reports : List DiskReport) :
    diskIssues t reports = ((reports.flatMap DiskReport.readDisks).filter fun d =>
      decide (d.usage.Offends t)).map ReadDisk.issue := by
  rw [diskIssues, List.filter_flatMap, List.map_flatMap]
  simp only [← issues_eq]

/-- **Shares are proper fractions**, and so the thresholds between zero and one do what they say:
at one there is no issue, at zero each disk of which something is in use is one, and a higher
threshold only takes issues away. -/
theorem issues_between_thresholds (reports : List DiskReport) :
    (∀ total free, ProperShare total free) ∧
    diskIssues ⟨1.0, 1.0⟩ reports = [] ∧
    diskIssues ⟨0.0, 0.0⟩ reports = ((reports.flatMap DiskReport.readDisks).filter fun d =>
      decide d.usage.InUse).map ReadDisk.issue ∧
    ∀ t t' : Thresholds, t.Raised t' →
      (diskIssues t' reports).Sublist (diskIssues t reports) := by
  refine ⟨properShare, ?_, ?_, fun t t' ht => ?_⟩
  · rw [diskIssues_eq, List.filter_eq_nil_iff.mpr, List.map_nil]
    intro d _ hoffends
    exact d.usage.not_offends_one (of_decide_eq_true hoffends)
  · simp only [diskIssues_eq, DiskUsage.offends_zero_iff]
  · rw [diskIssues_eq, diskIssues_eq]
    refine List.Sublist.map _ (List.monotone_filter_right _ fun d hd => ?_)
    exact decide_eq_true (.of_raised ht (of_decide_eq_true hd))

/-- A node whose ephemeral disk is three quarters full and whose persistent disk has no inodes. -/
def fillingReport : DiskReport where
  node := ⟨"10.0.0.1", "db/0", "", none⟩
  reading := .available ⟨⟨8, 6, 0, 0⟩, ⟨8, 2, 4, 3⟩⟩

theorem issues_of_fillingReport :
    Thresholds.Raised ⟨0.5, 0.5⟩ ⟨0.8, 0.5⟩ ∧
    (diskIssues ⟨0.8, 0.5⟩ [fillingReport]).Sublist (diskIssues ⟨0.5, 0.5⟩ [fillingReport]) ∧
    (diskIssues ⟨0.5, 0.5⟩ [fillingReport]).map DiskIssue.disk = [.ephemeral] := by
  have hraised : Thresholds.Raised ⟨0.5, 0.5⟩ ⟨0.8, 0.5⟩ := ⟨.inr (by decide), .inl rfl⟩
  exact ⟨hraised, (issues_between_thresholds [fillingReport]).2.2.2 _ _ hraised, by decide⟩

end GaleraHealth
