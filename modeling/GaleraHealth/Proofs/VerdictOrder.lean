import Mathlib.Logic.ExistsUnique
import GaleraHealth.Proofs.VerdictRule

/-!
# The order of the reports only breaks ties

The same nodes may be configured in another order, and the same reports are then searched in another
order, for a healthy node and for the candidate. What the rule of the verdict asks of the reports is
who is among them and how many they are, and both stay: only among several nodes that would all do
the first one is named, and that may be a different one.

* `AgreeUpToTies`: two verdicts that differ at most in that.
* `manual_iff_of_perm`, `needsBootstrap_of_perm`, `seqno_eq_of_perm`: what is the same in any order.
* `decide_of_perm`: the verdicts on the same reports in two orders agree up to ties.
-/

namespace GaleraHealth.Verdict

variable {q : Quorum} {xs ys : List NodeReport}

/-- A name of a node that can serve, in two lists of reports. -/
def NamesServer (q : Quorum) (xs ys : List NodeReport) (name : String) : Prop :=
  ∃ r, r.node.identity = name ∧ (r ∈ xs ∧ Serves q xs.length r) ∧ (r ∈ ys ∧ Serves q ys.length r)

/-- Two verdicts, on two lists of reports, that differ at most in which node is named of several
that would do. -/
inductive AgreeUpToTies (q : Quorum) (xs ys : List NodeReport) : Verdict → Verdict → Prop
  /-- Both name a node that can serve in either list. -/
  | notNeeded {a b : String} : NamesServer q xs ys a → NamesServer q xs ys b →
      AgreeUpToTies q xs ys (.notNeeded a) (.notNeeded b)
  /-- Both have the same number, and the same candidate if only one report knows that number. -/
  | bootstrap {a b : String} {n : Int64} : ((∃! r, r ∈ xs ∧ r.Knows n) → a = b) →
      AgreeUpToTies q xs ys (.bootstrap a n) (.bootstrap b n)
  | manualInvestigation : AgreeUpToTies q xs ys .manualInvestigation .manualInvestigation

/-! ### What is the same in any order -/

/-- Whether anybody can serve depends on who is among the reports, and on their number. -/
theorem nobody_serves_iff_of_perm (h : xs.Perm ys) :
    (∀ x ∈ xs, ¬ Serves q xs.length x) ↔ ∀ y ∈ ys, ¬ Serves q ys.length y := by
  simp only [h.length_eq, h.mem_iff]

theorem needsBootstrap_of_perm (h : xs.Perm ys) :
    (decide q xs).needsBootstrap = (decide q ys).needsBootstrap := by
  rw [Bool.eq_iff_iff, needsBootstrap_decide_iff, needsBootstrap_decide_iff,
    nobody_serves_iff_of_perm h]

theorem manual_iff_of_perm (h : xs.Perm ys) :
    decide q xs = .manualInvestigation ↔ decide q ys = .manualInvestigation := by
  rw [decide_eq_manual_iff, decide_eq_manual_iff, nobody_serves_iff_of_perm h]
  simp only [h.mem_iff]

theorem namesServer_left (h : xs.Perm ys) {name : String} (hx : decide q xs = .notNeeded name) :
    NamesServer q xs ys name := by
  obtain ⟨r, hr, hname, hserves⟩ := serves_of_notNeeded hx
  refine ⟨r, hname, ⟨hr, hserves⟩, h.mem_iff.mp hr, ?_⟩
  rwa [← h.length_eq]

theorem namesServer_right (h : xs.Perm ys) {name : String} (hy : decide q ys = .notNeeded name) :
    NamesServer q xs ys name := by
  obtain ⟨r, hname, hleft, hright⟩ := namesServer_left h.symm hy
  exact ⟨r, hname, hright, hleft⟩

section Candidates

variable {a b : String} {m n : Int64}

/-- **The highest number has no order.** Each candidate is among the reports that the other one was
chosen from. -/
theorem seqno_eq_of_perm (h : xs.Perm ys) (hx : decide q xs = .bootstrap a m)
    (hy : decide q ys = .bootstrap b n) : m = n := by
  obtain ⟨r, hr, -, hrm, hxs⟩ := isBest_of_bootstrap hx
  obtain ⟨s, hs, -, hsn, hys⟩ := isBest_of_bootstrap hy
  have hle : m ≤ n := hys r (h.mem_iff.mp hr) m hrm
  have hge : n ≤ m := hxs s (h.mem_iff.mpr hs) n hsn
  exact Int64.le_antisymm hle hge

/-- Without a tie the candidate is the same. -/
theorem candidate_eq_of_perm (h : xs.Perm ys) (hx : decide q xs = .bootstrap a n)
    (hy : decide q ys = .bootstrap b n) (honly : ∃! r, r ∈ xs ∧ r.Knows n) : a = b := by
  obtain ⟨r, hr, rfl, hrn, -⟩ := isBest_of_bootstrap hx
  obtain ⟨s, hs, rfl, hsn, -⟩ := isBest_of_bootstrap hy
  rw [honly.unique ⟨hr, hrn⟩ ⟨h.mem_iff.mpr hs, hsn⟩]

end Candidates

/-- **The order of the reports only breaks ties.** The verdicts on the same reports in two orders are
of one kind. They carry the same sequence number, and the same candidate unless several nodes know
that number; and a node that either of them names as healthy can serve in both. -/
theorem decide_of_perm (q : Quorum) {xs ys : List NodeReport} (h : xs.Perm ys) :
    AgreeUpToTies q xs ys (decide q xs) (decide q ys) ∧
      (decide q xs).needsBootstrap = (decide q ys).needsBootstrap := by
  have hneeded := needsBootstrap_of_perm (q := q) h
  have hmanual := manual_iff_of_perm (q := q) h
  refine ⟨?_, hneeded⟩
  cases hx : decide q xs with
  | notNeeded a =>
    cases hy : decide q ys with
    | notNeeded b => exact .notNeeded (namesServer_left h hx) (namesServer_right h hy)
    | bootstrap | manualInvestigation =>
      rw [hx, hy] at hneeded
      cases hneeded
  | bootstrap a m =>
    cases hy : decide q ys with
    | notNeeded b =>
      rw [hx, hy] at hneeded
      cases hneeded
    | bootstrap b n =>
      obtain rfl := seqno_eq_of_perm h hx hy
      exact .bootstrap (candidate_eq_of_perm h hx hy)
    | manualInvestigation =>
      rw [hmanual.mpr hy] at hx
      cases hx
  | manualInvestigation =>
    rw [hmanual.mp hx]
    exact .manualInvestigation

/-- Three nodes that are down, of which two know the highest number. -/
def tiedReports : List NodeReport :=
  [⟨⟨"10.0.0.1", "mysql", "a", none⟩, .recovered ⟨.unreachable, "connection refused"⟩ 7⟩,
    ⟨⟨"10.0.0.2", "mysql", "b", none⟩, .recovered ⟨.timeout, "too late"⟩ (-1)⟩,
    ⟨⟨"10.0.0.3", "mysql", "c", none⟩, .recovered ⟨.unreachable, "connection refused"⟩ 7⟩]

/-- In reverse order the other one of them is the candidate. -/
theorem tie_broken_by_order :
    tiedReports.Perm tiedReports.reverse ∧
      decide .standard tiedReports = .bootstrap "mysql/a" 7 ∧
      decide .standard tiedReports.reverse = .bootstrap "mysql/c" 7 ∧
      AgreeUpToTies .standard tiedReports tiedReports.reverse
        (decide .standard tiedReports) (decide .standard tiedReports.reverse) := by
  have hperm : tiedReports.Perm tiedReports.reverse := (List.reverse_perm tiedReports).symm
  have hfirst : decide .standard tiedReports = .bootstrap "mysql/a" 7 := by decide +kernel
  have hlast : decide .standard tiedReports.reverse = .bootstrap "mysql/c" 7 := by decide +kernel
  exact ⟨hperm, hfirst, hlast, (decide_of_perm .standard hperm).1⟩

end GaleraHealth.Verdict
