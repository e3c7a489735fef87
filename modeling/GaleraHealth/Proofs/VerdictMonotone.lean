import Mathlib.Data.List.Forall2
import GaleraHealth.Proofs.VerdictRule

/-!
# Health is monotone

A node that can serve still can when it sees more members, when less is asked of it, and when fewer
nodes are configured. `Verdict.Serves.mono` says so for all three at once, and for every policy: the
strict majority, the least size, and the primary component with its exception for a single node.

* `NodeReport.SeesMore`, `Quorum.AsksNoMore`: a report with a larger view, and a weaker quorum.
* `needsBootstrap_of_forall₂`: where nobody had to act, nobody has to after such a change.
* `decide_append_down`: nodes that are down and are added behind the others change no verdict that
  calls for a bootstrap or for people.
-/

namespace GaleraHealth

/-! ### Larger views -/

/-- The report of a node and a later one that differs from it at most in this: the node is live and
sees more members. -/
inductive NodeReport.SeesMore : NodeReport → NodeReport → Prop
  | same (r : NodeReport) : SeesMore r r
  | raised {node : Node} {s : NodeStatus} {size : UInt32} : s.clusterSize ≤ size →
      SeesMore ⟨node, .live s⟩ ⟨node, .live { s with clusterSize := size }⟩

/-- A node is down, and no number was recovered of it. -/
inductive NodeReport.IsDown : NodeReport → Prop
  | down {node : Node} {f : Failure} {agent : Option Failure} : IsDown ⟨node, .down f agent⟩

/-! ### Weaker quorums -/

/-- A policy asks for no more than another: it is the same, or it is content with fewer members. -/
inductive Policy.AsksNoMore : Policy → Policy → Prop
  | same (p : Policy) : AsksNoMore p p
  | fewer {least least' : UInt32} : least' ≤ least →
      AsksNoMore (.minClusterSize least') (.minClusterSize least)

/-- A quorum asks for no more than another. It may be content with a node that takes no writes. -/
structure Quorum.AsksNoMore (q' q : Quorum) : Prop where
  writable : q'.requireWritable = true → q.requireWritable = true
  policy : q'.policy.AsksNoMore q.policy

/-- The least that a policy lets pass stays enough for fewer nodes, a larger view and a weaker
policy. -/
theorem Policy.Suffices.mono {p p' : Policy} {s : NodeStatus} {size : UInt32} {configured n : Nat}
    (h : p.Suffices s configured) (hpolicy : p'.AsksNoMore p) (hsize : s.clusterSize ≤ size)
    (hn : n ≤ configured) : p'.Suffices { s with clusterSize := size } n := by
  have hsizes : s.clusterSize.toNat ≤ size.toNat := UInt32.le_iff_toNat_le.mp hsize
  cases hpolicy with
  | same =>
    cases p with
    | primaryComponent =>
      obtain ⟨hprimary, halone⟩ := h
      refine ⟨hprimary, ?_⟩
      show n ≤ 1 ∨ 1 < size.toNat
      omega
    | majority =>
      have hmajority : configured < 2 * s.clusterSize.toNat := h
      show n < 2 * size.toNat
      omega
    | minClusterSize least => exact Nat.le_trans h hsizes
  | fewer hleast => exact Nat.le_trans (UInt32.le_iff_toNat_le.mp hleast) (Nat.le_trans h hsizes)

theorem Quorum.Healthy.mono {q q' : Quorum} {s : NodeStatus} {size : UInt32} {configured n : Nat}
    (h : q.Healthy s configured) (hq : q'.AsksNoMore q) (hsize : s.clusterSize ≤ size)
    (hn : n ≤ configured) : q'.Healthy { s with clusterSize := size } n where
  synced := h.synced
  writable := fun hwritable => h.writable (hq.writable hwritable)
  admitted := h.admitted.mono hq.policy hsize hn

namespace Verdict

variable {q q' : Quorum} {xs ys down : List NodeReport}

/-- **Who can serve still can** with a larger view, under a weaker quorum, and among fewer nodes. -/
theorem Serves.mono {r r' : NodeReport} {configured n : Nat} (h : Serves q configured r)
    (hr : r.SeesMore r') (hq : q'.AsksNoMore q) (hn : n ≤ configured) : Serves q' n r' := by
  obtain ⟨s, hlive, hhealthy⟩ := h
  cases hr with
  | same => exact ⟨s, hlive, hhealthy.mono hq UInt32.le_rfl hn⟩
  | raised hsize =>
    cases hlive
    exact ⟨_, rfl, hhealthy.mono hq hsize hn⟩

/-! ### Verdicts that call for nothing -/

/-- Nothing has to be done exactly when somebody can serve. -/
theorem needsBootstrap_eq_false_iff (q : Quorum) (reports : List NodeReport) :
    (decide q reports).needsBootstrap = false ↔ ∃ x ∈ reports, Serves q reports.length x := by
  rw [← Bool.not_eq_true, needsBootstrap_decide_iff]
  simp only [not_forall, not_not, exists_prop]

theorem exists_related_of_mem {α β : Type} {R : α → β → Prop} {as : List α} {bs : List β}
    (h : List.Forall₂ R as bs) {a : α} (ha : a ∈ as) : ∃ b ∈ bs, R a b := by
  induction h with
  | nil => cases ha
  | @cons x y as bs hxy _ ih =>
    rcases List.mem_cons.mp ha with rfl | hmem
    · exact ⟨y, List.mem_cons_self, hxy⟩
    · obtain ⟨b, hb, hab⟩ := ih hmem
      exact ⟨b, List.mem_cons_of_mem y hb, hab⟩

/-- Where nothing had to be done, nothing has to be after views have grown and the quorum has become
weaker. -/
theorem needsBootstrap_of_forall₂ (hviews : List.Forall₂ NodeReport.SeesMore xs ys)
    (hq : q'.AsksNoMore q) (h : (decide q xs).needsBootstrap = false) :
    (decide q' ys).needsBootstrap = false := by
  rw [needsBootstrap_eq_false_iff] at h ⊢
  obtain ⟨x, hx, hserves⟩ := h
  obtain ⟨y, hy, hxy⟩ := exists_related_of_mem hviews hx
  exact ⟨y, hy, hserves.mono hxy hq (Nat.le_of_eq hviews.length_eq.symm)⟩

/-! ### Nodes that are down -/

theorem not_serves_of_isDown {r : NodeReport} (h : r.IsDown) (q : Quorum) (configured : Nat) :
    ¬ Serves q configured r := by
  rintro ⟨s, hlive, -⟩
  cases h with
  | down => cases hlive

theorem not_knows_of_isDown {r : NodeReport} (h : r.IsDown) (n : Int64) : ¬ r.Knows n := by
  intro hknows
  cases h with
  | down => cases hknows

/-- Among more nodes nobody can serve who could not before, and those that are down cannot. -/
theorem nobody_serves_append_down (hdown : ∀ r ∈ down, r.IsDown)
    (h : ∀ x ∈ xs, ¬ Serves q xs.length x) :
    ∀ x ∈ xs ++ down, ¬ Serves q (xs ++ down).length x := by
  have hle : xs.length ≤ (xs ++ down).length := by simp
  have hq : q.AsksNoMore q := ⟨id, .same _⟩
  rw [List.forall_mem_append]
  constructor
  · intro x hx hserves
    exact h x hx (hserves.mono (.same x) hq hle)
  · intro x hx
    exact not_serves_of_isDown (hdown x hx) q _

/-- **Nodes that are down change no verdict but "not needed".** -/
theorem decide_append_down (hdown : ∀ r ∈ down, r.IsDown)
    (h : (decide q xs).needsBootstrap = true) : decide q (xs ++ down) = decide q xs := by
  have hnobody := nobody_serves_append_down hdown ((needsBootstrap_decide_iff q xs).mp h)
  refine (isVerdict_decide q (xs ++ down)).unique ?_
  have hverdict := isVerdict_decide q xs
  generalize decide q xs = v at h hverdict ⊢
  cases hverdict with
  | notNeeded => cases h
  | bootstrap _ hfirst hmax =>
    refine .bootstrap hnobody (hfirst.append down) (List.forall_mem_append.mpr ⟨hmax, ?_⟩)
    intro x hx m hm
    exact absurd hm (not_knows_of_isDown (hdown x hx) m)
  | manualInvestigation _ hnone =>
    refine .manualInvestigation hnobody (List.forall_mem_append.mpr ⟨hnone, ?_⟩)
    intro x hx n
    exact not_knows_of_isDown (hdown x hx) n

/-- **Health is monotone under every policy.** A verdict that calls for nothing still calls for
nothing when live nodes see more members, and under a quorum that lets nodes be read-only or is
content with fewer members. A verdict that calls for a bootstrap or for people stays the same when
nodes that are down are added. And the majority test is exact: no size and no count wrap around. -/
theorem needsBootstrap_monotone (q : Quorum) :
    (∀ xs ys, List.Forall₂ NodeReport.SeesMore xs ys →
      (decide q xs).needsBootstrap = false → (decide q ys).needsBootstrap = false) ∧
    (∀ q' xs, q'.AsksNoMore q →
      (decide q xs).needsBootstrap = false → (decide q' xs).needsBootstrap = false) ∧
    (∀ xs down, (∀ r ∈ down, r.IsDown) →
      (decide q xs).needsBootstrap = true → decide q (xs ++ down) = decide q xs) ∧
    ∀ (s : NodeStatus) (configured : UInt64),
      Policy.majority.admits s configured = true ↔ 2 * s.clusterSize.toNat > configured.toNat := by
  refine ⟨?_, ?_, ?_, ?_⟩
  · intro xs ys hviews
    exact needsBootstrap_of_forall₂ hviews ⟨id, .same q.policy⟩
  · intro q' xs hq
    have hviews : List.Forall₂ NodeReport.SeesMore xs xs :=
      List.forall₂_same.mpr fun r _ => .same r
    exact needsBootstrap_of_forall₂ hviews hq
  · intro xs down hdown
    exact decide_append_down hdown
  · intro s configured
    exact isMajority_iff s.clusterSize configured

/-- A node that can serve if it need not take writes and sees enough members, beside one that is
down. -/
def guardedPair (size : UInt32) : List NodeReport :=
  [⟨⟨"10.0.0.1", "mysql", "a", none⟩,
      .live ⟨.synced, "Synced", size, "Primary", true, none, some 3⟩⟩,
    ⟨⟨"10.0.0.2", "mysql", "b", none⟩, .down ⟨.unreachable, "connection refused"⟩ none⟩]

/-- It serves where three members are asked for, then with a view of five, then where two members
are enough. Where writes are asked for it does not, and a third node that is down does not matter. -/
theorem needsBootstrap_guardedPair :
    let three : Quorum := ⟨.minClusterSize 3, false⟩
    let two : Quorum := ⟨.minClusterSize 2, false⟩
    let third : NodeReport := ⟨⟨"10.0.0.3", "mysql", "c", none⟩, .down ⟨.timeout, "late"⟩ none⟩
    (List.Forall₂ NodeReport.SeesMore (guardedPair 3) (guardedPair 5) ∧
      (decide three (guardedPair 3)).needsBootstrap = false ∧
      (decide three (guardedPair 5)).needsBootstrap = false) ∧
    (two.AsksNoMore three ∧ (decide two (guardedPair 3)).needsBootstrap = false) ∧
    third.IsDown ∧ (decide .standard (guardedPair 3)).needsBootstrap = true ∧
      decide .standard (guardedPair 3 ++ [third]) = .bootstrap "mysql/a" 3 := by
  intro three two third
  have hviews : List.Forall₂ NodeReport.SeesMore (guardedPair 3) (guardedPair 5) :=
    .cons (.raised (by decide)) (.cons (.same _) .nil)
  have hweaker : two.AsksNoMore three := ⟨id, .fewer (by decide)⟩
  have hserves : (decide three (guardedPair 3)).needsBootstrap = false := by decide +kernel
  have hneeded : (decide .standard (guardedPair 3)).needsBootstrap = true := by decide +kernel
  have hcandidate : decide .standard (guardedPair 3) = .bootstrap "mysql/a" 3 := by decide +kernel
  obtain ⟨hgrown, heased, -⟩ := needsBootstrap_monotone three
  obtain ⟨-, -, hadded, -⟩ := needsBootstrap_monotone .standard
  refine ⟨⟨hviews, hserves, hgrown _ _ hviews hserves⟩, ⟨hweaker, heased _ _ hweaker hserves⟩,
    .down, hneeded, ?_⟩
  rw [hadded _ _ (List.forall_mem_singleton.mpr .down) hneeded, hcandidate]

end Verdict

end GaleraHealth
