import GaleraHealth.Proofs.RunReports
import GaleraHealth.Proofs.VerdictRule

/-!
# The agents refine the verdict

The galera agents are asked after the live checks, and they may add the number of a node that is
down. Nobody becomes live by that, so a verdict does not flip between "not needed" and "needed",
and no known number is lost, so a candidate can only make room for one that knows at least as much.

* `mem_recovered_of_live`, `mem_of_mem_recovered`: the agents leave the live reports as they are,
  and make no new ones.
* `isFirst_serves_recovered`: the first node that can serve stays the first.
* `Verdict.Refines`: how one verdict may follow another, and `refines_recovered` for the agents.
* `manual_recovered_iff`: no number is known in the end exactly when none was known before and
  every agent failed or answered a negative number.
-/

namespace GaleraHealth

/-- A report as the live checks leave it: the node is live, or it is down and its agent has not been
asked. -/
inductive NodeReport.IsCollected : NodeReport → Prop
  | live {node : Node} {s : NodeStatus} : IsCollected ⟨node, .live s⟩
  | down {node : Node} {f : Failure} : IsCollected ⟨node, .down f none⟩

theorem isCollected_checkStatuses {source : Node → Course (Ending NodeStatus)} {limit : Duration}
    {cancel : Option Nat} {start : Nat} {nodes : List Node} {r : NodeReport}
    (h : r ∈ (checkStatuses source limit cancel start nodes).reports) : r.IsCollected := by
  rw [reports_checkStatuses] at h
  obtain ⟨n, -, rfl⟩ := List.mem_map.mp h
  cases (source n).outcome .status limit cancel start with
  | ok s => exact .live
  | error f => exact .down

/-- Before the agents are asked, only live nodes know a number. -/
theorem NodeReport.IsCollected.isLive_of_knows {r : NodeReport} (h : r.IsCollected) {n : Int64}
    (hn : r.Knows n) : r.isLive = true := by
  cases h with
  | live => rfl
  | down => cases hn

theorem isLive_of_serves {q : Quorum} {configured : Nat} {r : NodeReport}
    (h : Verdict.Serves q configured r) : r.isLive = true := by
  obtain ⟨s, hs, -⟩ := h
  simp [NodeReport.isLive, NodeReport.status?, hs]

/-! ### Who is live stays so -/

theorem mem_recovered_of_live {reports : List NodeReport} {r : NodeReport} (hr : r ∈ reports)
    (hlive : r.isLive = true) (results : List (Except Failure Int64)) :
    r ∈ recovered reports results := by
  obtain ⟨i, hi⟩ := List.mem_iff_getElem?.mp hr
  exact List.mem_of_getElem? (getElem?_recovered_live hi hlive results)

theorem afterLookup_not_live (node : Node) (f : Failure) (result : Except Failure Int64) :
    (NodeReport.mk node (.afterLookup f result)).isLive = false := by
  cases result <;> rfl

/-- Nobody becomes live by the answer of an agent. -/
theorem mem_of_mem_recovered {reports : List NodeReport} {results : List (Except Failure Int64)}
    {m : NodeReport} (hm : m ∈ recovered reports results) (hlive : m.isLive = true) :
    m ∈ reports := by
  fun_induction recovered reports results with
  | case1 => exact hm
  | case2 r rest results hf ih =>
    rcases List.mem_cons.mp hm with rfl | hmem
    · exact List.mem_cons_self
    · exact List.mem_cons_of_mem r (ih hmem)
  | case3 r rest f hf ih =>
    rcases List.mem_cons.mp hm with rfl | hmem
    · cases hlive
    · exact List.mem_cons_of_mem r (ih hmem)
  | case4 r rest f hf result results ih =>
    rcases List.mem_cons.mp hm with rfl | hmem
    · rw [afterLookup_not_live] at hlive
      cases hlive
    · exact List.mem_cons_of_mem r (ih hmem)

/-- **The first node that can serve stays the first**, and stays as it was. -/
theorem isFirst_serves_recovered {q : Quorum} {configured : Nat} {reports : List NodeReport}
    {r : NodeReport} (h : IsFirst (Verdict.Serves q configured) reports r)
    (results : List (Except Failure Int64)) :
    IsFirst (Verdict.Serves q configured) (recovered reports results) r := by
  obtain ⟨hserves, before, after, rfl, hbefore⟩ := h
  rw [recovered_append, recovered_cons_live (isLive_of_serves hserves)]
  refine ⟨hserves, _, _, rfl, ?_⟩
  intro y hy hyserves
  exact hbefore y (mem_of_mem_recovered hy (isLive_of_serves hyserves)) hyserves

/-- Whether anybody can serve is not changed by the agents. -/
theorem nobody_serves_recovered_iff {q : Quorum} {configured : Nat} {reports : List NodeReport}
    (results : List (Except Failure Int64)) :
    (∀ x ∈ recovered reports results, ¬ Verdict.Serves q configured x) ↔
      ∀ x ∈ reports, ¬ Verdict.Serves q configured x := by
  constructor
  · intro h x hx hserves
    exact h x (mem_recovered_of_live hx (isLive_of_serves hserves) results) hserves
  · intro h x hx hserves
    exact h x (mem_of_mem_recovered hx (isLive_of_serves hserves)) hserves

namespace Verdict

/-! ### Verdicts before and after -/

/-- How a verdict may change when more becomes known of the nodes that are down. -/
structure Refines (before after : Verdict) : Prop where
  needsBootstrap : before.needsBootstrap = after.needsBootstrap
  notNeeded : ∀ name, before = .notNeeded name → after = .notNeeded name
  bootstrap : ∀ name n, before = .bootstrap name n →
    ∃ name' n', after = .bootstrap name' n' ∧ n ≤ n'

section Recovered

variable {q : Quorum} {reports : List NodeReport}

theorem needsBootstrap_recovered (results : List (Except Failure Int64)) :
    (decide q (recovered reports results)).needsBootstrap = (decide q reports).needsBootstrap := by
  rw [Bool.eq_iff_iff, needsBootstrap_decide_iff, needsBootstrap_decide_iff, length_recovered,
    nobody_serves_recovered_iff]

theorem notNeeded_recovered (results : List (Except Failure Int64)) {name : String}
    (h : decide q reports = .notNeeded name) :
    decide q (recovered reports results) = .notNeeded name := by
  have hverdict := isVerdict_decide q reports
  rw [h] at hverdict
  cases hverdict with
  | notNeeded hfirst =>
    have hsame := isFirst_serves_recovered hfirst results
    rw [← length_recovered reports results] at hsame
    exact (isVerdict_decide q (recovered reports results)).unique (.notNeeded hsame)

theorem bootstrap_recovered (hcollected : ∀ r ∈ reports, r.IsCollected)
    (results : List (Except Failure Int64)) {name : String} {n : Int64}
    (h : decide q reports = .bootstrap name n) :
    ∃ name' n', decide q (recovered reports results) = .bootstrap name' n' ∧ n ≤ n' := by
  -- whoever knows the number is live, and knows it still
  obtain ⟨r, hr, -, hknows, -⟩ := isBest_of_bootstrap h
  have hmem := mem_recovered_of_live hr ((hcollected r hr).isLive_of_knows hknows) results
  have hneeded : (decide q (recovered reports results)).needsBootstrap = true := by
    rw [needsBootstrap_recovered, h]
    rfl
  cases hafter : decide q (recovered reports results) with
  | notNeeded name' =>
    rw [hafter] at hneeded
    cases hneeded
  | bootstrap name' n' =>
    obtain ⟨-, -, -, -, hmax⟩ := isBest_of_bootstrap hafter
    exact ⟨name', n', rfl, hmax r hmem n hknows⟩
  | manualInvestigation =>
    exact absurd hknows (((decide_eq_manual_iff q _).mp hafter).2 r hmem n)

/-- **The answers of the agents refine the verdict**, whatever they are. -/
theorem refines_recovered (hcollected : ∀ r ∈ reports, r.IsCollected)
    (results : List (Except Failure Int64)) :
    Refines (decide q reports) (decide q (recovered reports results)) where
  needsBootstrap := (needsBootstrap_recovered results).symm
  notNeeded := fun _ h => notNeeded_recovered results h
  bootstrap := fun _ _ h => bootstrap_recovered hcollected results h

end Recovered

end Verdict

/-! ### When the agents know nothing either -/

section Lookups

variable {reports : List NodeReport} {lookup : Nat → Except Failure Int64}

/-- Whoever is not live in the end has been asked about, and carries what the lookup answered. -/
theorem exists_lookup_of_mem_recovered {m : NodeReport}
    (hm : m ∈ recovered reports (lookupAnswers reports lookup)) (hdown : m.isLive = false) :
    ∃ k < (nodesToRecover reports).length, ∃ node f, m = ⟨node, .afterLookup f (lookup k)⟩ := by
  obtain ⟨i, hi⟩ := List.mem_iff_getElem?.mp hm
  obtain ⟨hlt, -⟩ := List.getElem?_eq_some_iff.mp hi
  rw [length_recovered] at hlt
  have hr := List.getElem?_eq_getElem hlt
  cases hlive : reports[i].isLive with
  | true =>
    rw [getElem?_recovered_live hr hlive] at hi
    rw [Option.some.inj hi, hdown] at hlive
    cases hlive
  | false =>
    obtain ⟨f, hf⟩ := isLive_eq_false_iff.mp hlive
    obtain ⟨hk, -⟩ := List.getElem?_eq_some_iff.mp (getElem?_nodesToRecover hr hlive)
    have hanswer : (lookupAnswers reports lookup)[lookupNumber reports i]? =
        some (lookup (lookupNumber reports i)) := by
      simp [lookupAnswers, hk]
    rw [getElem?_recovered_down hr hf hanswer] at hi
    exact ⟨_, hk, reports[i].node, f, (Option.some.inj hi).symm⟩

/-- No number is known after the agents were asked exactly when none was known before, and every
agent failed or answered a negative number. -/
theorem nobody_knows_recovered_iff (hcollected : ∀ r ∈ reports, r.IsCollected) :
    (∀ x ∈ recovered reports (lookupAnswers reports lookup), ∀ n, ¬ x.Knows n) ↔
      (∀ x ∈ reports, ∀ n, ¬ x.Knows n) ∧
        ∀ k < (nodesToRecover reports).length, ∀ n, lookup k = .ok n → n < 0 := by
  constructor
  · intro h
    refine ⟨?_, ?_⟩
    · intro x hx n hknows
      have hlive := (hcollected x hx).isLive_of_knows hknows
      exact h x (mem_recovered_of_live hx hlive _) n hknows
    · intro k hk n hn
      obtain ⟨i, r, hr, hdown, rfl⟩ := exists_lookupNumber hk
      obtain ⟨f, hf⟩ := isLive_eq_false_iff.mp hdown
      have hmerged := (byOwnLookup_recovered reports lookup).answered i r f n hr hf hn
      rw [← Int64.not_le]
      intro hnonneg
      exact h _ (List.mem_of_getElem? hmerged) n (.recovered hnonneg)
  · rintro ⟨hnone, hnegative⟩ x hx n hknows
    cases hlive : x.isLive with
    | true => exact hnone x (mem_of_mem_recovered hx hlive) n hknows
    | false =>
      obtain ⟨k, hk, node, f, rfl⟩ := exists_lookup_of_mem_recovered hx hlive
      cases hanswer : lookup k with
      | error e =>
        rw [hanswer] at hknows
        cases hknows
      | ok m =>
        rw [hanswer] at hknows
        cases hknows with
        | recovered hm => exact Int64.not_lt.mpr hm (hnegative k hk _ hanswer)

theorem manual_recovered_iff (q : Quorum) (hcollected : ∀ r ∈ reports, r.IsCollected) :
    Verdict.decide q (recovered reports (lookupAnswers reports lookup)) = .manualInvestigation ↔
      Verdict.decide q reports = .manualInvestigation ∧
        ∀ k < (nodesToRecover reports).length, ∀ n, lookup k = .ok n → n < 0 := by
  rw [Verdict.decide_eq_manual_iff, Verdict.decide_eq_manual_iff, length_recovered,
    nobody_serves_recovered_iff, nobody_knows_recovered_iff hcollected, and_assoc]

end Lookups

/-- **The agents refine the verdict and never flip it.** For reports as live checks leave them and
for whatever the lookups answer, a bootstrap is needed after them exactly when it was before, a
healthy node stays the one that is named, and a candidate gives way only to one that knows at least
as much; the decision is left to people in the end exactly when it was before and every agent failed
or answered a negative number. So it is in a run, where the agents are asked about what its own live
checks have left, whoever answers, crashes or is cancelled. -/
theorem refined_by_agents (q : Quorum) :
    (∀ reports : List NodeReport, (∀ r ∈ reports, r.IsCollected) →
      ∀ lookup : Nat → Except Failure Int64,
        (Verdict.decide q reports).Refines
          (Verdict.decide q (recovered reports (lookupAnswers reports lookup))) ∧
        (Verdict.decide q (recovered reports (lookupAnswers reports lookup)) =
            .manualInvestigation ↔
          Verdict.decide q reports = .manualInvestigation ∧
            ∀ k < (nodesToRecover reports).length, ∀ n, lookup k = .ok n → n < 0)) ∧
    ∀ (status : Node → Course (Ending NodeStatus)) (seqno : Node → Course (Ending Int64))
      (limit agentLimit : Duration) (cancel : Option Nat) (nodes : List Node),
      let live := checkStatuses status limit cancel 0 nodes
      (Verdict.decide q live.reports).Refines
        (Verdict.decide q
          (recoverSeqnos seqno agentLimit cancel live.endsAt live.reports).reports) := by
  refine ⟨?_, ?_⟩
  · intro reports hcollected lookup
    exact ⟨Verdict.refines_recovered hcollected _, manual_recovered_iff q hcollected⟩
  · intro status seqno limit agentLimit cancel nodes live
    exact Verdict.refines_recovered (fun r hr => isCollected_checkStatuses hr) _

/-- A live node that is not synced and knows its number, and two nodes that are down. -/
def oneLiveReport : List NodeReport :=
  [⟨⟨"10.0.0.1", "mysql", "a", none⟩,
      .live ⟨.joining, "Joining", 1, "non-Primary", false, none, some 7⟩⟩,
    ⟨⟨"10.0.0.2", "mysql", "b", none⟩, .down ⟨.unreachable, "connection refused"⟩ none⟩,
    ⟨⟨"10.0.0.3", "mysql", "c", none⟩, .down ⟨.timeout, "too late"⟩ none⟩]

/-- The first agent that is asked answers that it knows no number, the second a high one. -/
theorem refined_oneLiveReport :
    let lookup : Nat → Except Failure Int64 := fun k => if k = 0 then .ok (-1) else .ok 9
    let merged := recovered oneLiveReport (lookupAnswers oneLiveReport lookup)
    (∀ r ∈ oneLiveReport, r.IsCollected) ∧
      (Verdict.decide .standard oneLiveReport).Refines (Verdict.decide .standard merged) ∧
      Verdict.decide .standard oneLiveReport = .bootstrap "mysql/a" 7 ∧
      Verdict.decide .standard merged = .bootstrap "mysql/c" 9 := by
  intro lookup merged
  have hcollected : ∀ r ∈ oneLiveReport, r.IsCollected := by
    intro r hr
    simp only [oneLiveReport, List.mem_cons, List.not_mem_nil, or_false] at hr
    rcases hr with rfl | rfl | rfl
    · exact .live
    · exact .down
    · exact .down
  obtain ⟨hrefines, -⟩ := (refined_by_agents .standard).1 oneLiveReport hcollected lookup
  exact ⟨hcollected, hrefines, by decide +kernel, by decide +kernel⟩

end GaleraHealth
