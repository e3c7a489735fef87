import GaleraHealth.Check.Run
import GaleraHealth.Proofs.PhaseResults

/-!
# Every node gets the answer of its own agent

The galera agents are asked only about the nodes that are not live, and their answers are handed
back along the full list of reports. `lookupNumber` counts the lookups that belong to earlier
reports, which is the number of a report's own lookup:

* `getElem?_nodesToRecover`, `exists_lookupNumber`, `lookupNumber_inj`: the lookups and the reports
  that are not live stand for each other, one to one and in the same order.
* `recovered_append`: the walk along the reports, with the answers that are left as its state. It
  may stop before any report and go on from there.
* `getElem?_recovered_live`, `getElem?_recovered_down`: a live report is passed over, and any other
  takes the answer of its own lookup.

`recovered_by_own_lookup` states the whole, for any answers and for the answers of a run.
-/

namespace GaleraHealth

theorem failure?_eq_none_iff {r : NodeReport} : r.failure? = none ↔ r.isLive = true := by
  obtain ⟨node, state⟩ := r
  cases state <;> simp [NodeReport.failure?, NodeReport.isLive, NodeReport.status?]

theorem isLive_eq_false_iff {r : NodeReport} : r.isLive = false ↔ ∃ f, r.failure? = some f := by
  rw [← Option.ne_none_iff_exists', ne_eq, failure?_eq_none_iff, Bool.not_eq_true]

/-! ### Which lookup belongs to which report -/

theorem nodesToRecover_append (xs ys : List NodeReport) :
    nodesToRecover (xs ++ ys) = nodesToRecover xs ++ nodesToRecover ys := by
  rw [nodesToRecover, List.filter_append, List.map_append]
  rfl

theorem nodesToRecover_cons_live {r : NodeReport} (h : r.isLive = true) (rest : List NodeReport) :
    nodesToRecover (r :: rest) = nodesToRecover rest := by
  simp [nodesToRecover, h]

theorem nodesToRecover_cons_down {r : NodeReport} (h : r.isLive = false)
    (rest : List NodeReport) : nodesToRecover (r :: rest) = r.node :: nodesToRecover rest := by
  simp [nodesToRecover, h]

/-- A report stands between those before it and those after it. -/
theorem exists_split {α : Type} {xs : List α} {i : Nat} {x : α} (h : xs[i]? = some x) :
    ∃ before after, xs = before ++ x :: after ∧ before.length = i := by
  obtain ⟨hi, hx⟩ := List.getElem?_eq_some_iff.mp h
  refine ⟨xs.take i, xs.drop (i + 1), ?_, ?_⟩
  · rw [← hx, List.getElem_cons_drop, List.take_append_drop]
  · rw [List.length_take]
    omega

/-- The number of the lookup that belongs to a report: so many nodes are asked about before it. -/
def lookupNumber (reports : List NodeReport) (i : Nat) : Nat :=
  (nodesToRecover (reports.take i)).length

theorem lookupNumber_append (before rest : List NodeReport) :
    lookupNumber (before ++ rest) before.length = (nodesToRecover before).length := by
  rw [lookupNumber, List.take_left]

theorem lookupNumber_cons_live {r : NodeReport} (h : r.isLive = true) (rest : List NodeReport)
    (i : Nat) : lookupNumber (r :: rest) (i + 1) = lookupNumber rest i := by
  rw [lookupNumber, List.take_succ_cons, nodesToRecover_cons_live h]
  rfl

theorem lookupNumber_cons_down {r : NodeReport} (h : r.isLive = false) (rest : List NodeReport)
    (i : Nat) : lookupNumber (r :: rest) (i + 1) = lookupNumber rest i + 1 := by
  rw [lookupNumber, List.take_succ_cons, nodesToRecover_cons_down h, List.length_cons]
  rfl

/-- The lookup of a report that is not live is a lookup for its node. -/
theorem getElem?_nodesToRecover {reports : List NodeReport} {i : Nat} {r : NodeReport}
    (hr : reports[i]? = some r) (hdown : r.isLive = false) :
    (nodesToRecover reports)[lookupNumber reports i]? = some r.node := by
  obtain ⟨before, after, rfl, rfl⟩ := exists_split hr
  rw [lookupNumber_append, nodesToRecover_append, nodesToRecover_cons_down hdown,
    List.getElem?_append_right (Nat.le_refl _), Nat.sub_self, List.getElem?_cons_zero]

/-- Every lookup belongs to a report that is not live. -/
theorem exists_lookupNumber {reports : List NodeReport} {k : Nat}
    (hk : k < (nodesToRecover reports).length) :
    ∃ i r, reports[i]? = some r ∧ r.isLive = false ∧ lookupNumber reports i = k := by
  induction reports generalizing k with
  | nil => simp [nodesToRecover] at hk
  | cons first rest ih =>
    cases hfirst : first.isLive with
    | true =>
      rw [nodesToRecover_cons_live hfirst] at hk
      obtain ⟨i, r, hr, hdown, hi⟩ := ih hk
      exact ⟨i + 1, r, hr, hdown, by rw [lookupNumber_cons_live hfirst, hi]⟩
    | false =>
      rw [nodesToRecover_cons_down hfirst, List.length_cons] at hk
      cases k with
      | zero => exact ⟨0, first, rfl, hfirst, rfl⟩
      | succ k =>
        obtain ⟨i, r, hr, hdown, hi⟩ := ih (Nat.lt_of_succ_lt_succ hk)
        exact ⟨i + 1, r, hr, hdown, by rw [lookupNumber_cons_down hfirst, hi]⟩

/-- The lookup of a report that is not live comes before those of all later reports. -/
theorem lookupNumber_lt {reports : List NodeReport} {i j : Nat} {r : NodeReport}
    (hr : reports[i]? = some r) (hdown : r.isLive = false) (hij : i < j) :
    lookupNumber reports i < lookupNumber reports j := by
  obtain ⟨before, after, rfl, rfl⟩ := exists_split hr
  obtain ⟨d, rfl⟩ : ∃ d, j = before.length + (d + 1) := ⟨j - before.length - 1, by omega⟩
  rw [lookupNumber_append, lookupNumber, List.take_length_add_append, List.take_succ_cons,
    nodesToRecover_append, nodesToRecover_cons_down hdown, List.length_append, List.length_cons]
  omega

/-- Two reports that are not live have different lookups. -/
theorem lookupNumber_inj {reports : List NodeReport} {i j : Nat} {r s : NodeReport}
    (hr : reports[i]? = some r) (hrdown : r.isLive = false) (hs : reports[j]? = some s)
    (hsdown : s.isLive = false) (h : lookupNumber reports i = lookupNumber reports j) : i = j := by
  rcases Nat.lt_trichotomy i j with hlt | heq | hgt
  · have hbefore := lookupNumber_lt hr hrdown hlt
    omega
  · exact heq
  · have hbefore := lookupNumber_lt hs hsdown hgt
    omega

/-! ### Handing out the answers -/

theorem recovered_cons_live {r : NodeReport} (h : r.isLive = true) (rest : List NodeReport)
    (results : List (Except Failure Int64)) :
    recovered (r :: rest) results = r :: recovered rest results := by
  simp only [recovered, failure?_eq_none_iff.mpr h]

theorem recovered_cons_down {r : NodeReport} {f : Failure} (h : r.failure? = some f)
    (rest : List NodeReport) (result : Except Failure Int64)
    (results : List (Except Failure Int64)) :
    recovered (r :: rest) (result :: results) =
      ⟨r.node, .afterLookup f result⟩ :: recovered rest results := by
  simp only [recovered, h]

theorem map_node_recovered (reports : List NodeReport) (results : List (Except Failure Int64)) :
    (recovered reports results).map NodeReport.node = reports.map NodeReport.node := by
  fun_induction recovered reports results <;> simp_all

/-- **Handing out goes on where it stopped.** A first part of the reports takes the answers of its
own lookups, and the rest goes on with the answers after these. -/
theorem recovered_append (xs ys : List NodeReport) (results : List (Except Failure Int64)) :
    recovered (xs ++ ys) results =
      recovered xs results ++ recovered ys (results.drop (nodesToRecover xs).length) := by
  -- the answers that are left are the state of the walk
  induction xs generalizing results with
  | nil => rfl
  | cons r rest ih =>
    rw [List.cons_append]
    cases hr : r.isLive with
    | true =>
      rw [recovered_cons_live hr, recovered_cons_live hr, nodesToRecover_cons_live hr, ih,
        List.cons_append]
    | false =>
      obtain ⟨f, hf⟩ := isLive_eq_false_iff.mp hr
      rw [nodesToRecover_cons_down hr, List.length_cons]
      cases results with
      | nil =>
        have hrest := ih []
        rw [List.drop_nil] at hrest ⊢
        simp only [recovered, hf, hrest, List.cons_append]
      | cons result results =>
        rw [recovered_cons_down hf, recovered_cons_down hf, ih, List.drop_succ_cons,
          List.cons_append]

/-- A report stays where it stood, made of what it was and the answers from its own lookup on. -/
theorem getElem?_recovered {before after : List NodeReport} {r : NodeReport}
    (results : List (Except Failure Int64)) :
    (recovered (before ++ r :: after) results)[before.length]? =
      (recovered (r :: after) (results.drop (nodesToRecover before).length))[0]? := by
  rw [recovered_append, List.getElem?_append_right (Nat.le_of_eq (length_recovered before results)),
    length_recovered, Nat.sub_self]

/-- A live report is passed over. -/
theorem getElem?_recovered_live {reports : List NodeReport} {i : Nat} {r : NodeReport}
    (hr : reports[i]? = some r) (hlive : r.isLive = true)
    (results : List (Except Failure Int64)) : (recovered reports results)[i]? = some r := by
  obtain ⟨before, after, rfl, rfl⟩ := exists_split hr
  rw [getElem?_recovered, recovered_cons_live hlive, List.getElem?_cons_zero]

/-- A report that is not live takes the answer of its own lookup, and keeps its failure. -/
theorem getElem?_recovered_down {reports : List NodeReport} {i : Nat} {r : NodeReport}
    {f : Failure} (hr : reports[i]? = some r) (hf : r.failure? = some f)
    {results : List (Except Failure Int64)} {result : Except Failure Int64}
    (hresult : results[lookupNumber reports i]? = some result) :
    (recovered reports results)[i]? = some ⟨r.node, .afterLookup f result⟩ := by
  obtain ⟨before, after, rfl, rfl⟩ := exists_split hr
  rw [lookupNumber_append] at hresult
  obtain ⟨earlier, later, rfl, hlength⟩ := exists_split hresult
  rw [getElem?_recovered, ← hlength, List.drop_left, recovered_cons_down hf,
    List.getElem?_cons_zero]

/-! ### The whole phase -/

/-- Reports after the agents were asked: every one that was not live carries the answer of its own
lookup. -/
structure ByOwnLookup (reports : List NodeReport) (lookup : Nat → Except Failure Int64)
    (merged : List NodeReport) : Prop where
  nodes : merged.map NodeReport.node = reports.map NodeReport.node
  live : ∀ (i : Nat) (r : NodeReport), reports[i]? = some r → r.isLive = true →
    merged[i]? = some r
  answered : ∀ (i : Nat) (r : NodeReport) (f : Failure) (n : Int64), reports[i]? = some r →
    r.failure? = some f → lookup (lookupNumber reports i) = .ok n →
    merged[i]? = some ⟨r.node, .recovered f n⟩
  failed : ∀ (i : Nat) (r : NodeReport) (f e : Failure), reports[i]? = some r →
    r.failure? = some f → lookup (lookupNumber reports i) = .error e →
    merged[i]? = some ⟨r.node, .down f (some e)⟩

/-- The answers to as many lookups as there are nodes to ask about. -/
def lookupAnswers (reports : List NodeReport) (lookup : Nat → Except Failure Int64) :
    List (Except Failure Int64) :=
  (List.range (nodesToRecover reports).length).map lookup

theorem byOwnLookup_recovered (reports : List NodeReport) (lookup : Nat → Except Failure Int64) :
    ByOwnLookup reports lookup (recovered reports (lookupAnswers reports lookup)) := by
  have hown : ∀ (i : Nat) (r : NodeReport) (f : Failure), reports[i]? = some r →
      r.failure? = some f → (recovered reports (lookupAnswers reports lookup))[i]? =
        some ⟨r.node, .afterLookup f (lookup (lookupNumber reports i))⟩ := by
    intro i r f hr hf
    have hasked := getElem?_nodesToRecover hr (isLive_eq_false_iff.mpr ⟨f, hf⟩)
    obtain ⟨hlt, -⟩ := List.getElem?_eq_some_iff.mp hasked
    exact getElem?_recovered_down hr hf (by simp [lookupAnswers, hlt])
  refine ⟨map_node_recovered _ _, ?_, ?_, ?_⟩
  · intro i r hr hlive
    exact getElem?_recovered_live hr hlive _
  · intro i r f n hr hf hn
    rw [hown i r f hr hf, hn]
    rfl
  · intro i r f e hr hf he
    rw [hown i r f hr hf, he]
    rfl

/-- A list of reports without gaps: none is down with its agent not asked. -/
theorem ByOwnLookup.no_gap {reports merged : List NodeReport}
    {lookup : Nat → Except Failure Int64} (h : ByOwnLookup reports lookup merged) {r : NodeReport}
    (hr : r ∈ merged) (f : Failure) : r.state ≠ .down f none := by
  obtain ⟨i, hi⟩ := List.mem_iff_getElem?.mp hr
  have hnode : (reports.map NodeReport.node)[i]? = some r.node := by
    rw [← h.nodes, List.getElem?_map, hi, Option.map_some]
  rw [List.getElem?_map] at hnode
  obtain ⟨before, hbefore, -⟩ := Option.map_eq_some_iff.mp hnode
  intro hstate
  cases hlive : before.isLive with
  | true =>
    have hsame := h.live i before hbefore hlive
    rw [hi] at hsame
    cases Option.some.inj hsame
    simp [NodeReport.isLive, NodeReport.status?, hstate] at hlive
  | false =>
    obtain ⟨g, hg⟩ := isLive_eq_false_iff.mp hlive
    cases hanswer : lookup (lookupNumber reports i) with
    | ok n =>
      have hmerged := h.answered i before g n hbefore hg hanswer
      rw [hi] at hmerged
      rw [Option.some.inj hmerged] at hstate
      cases hstate
    | error e =>
      have hmerged := h.failed i before g e hbefore hg hanswer
      rw [hi] at hmerged
      rw [Option.some.inj hmerged] at hstate
      cases hstate

/-- The lookups that are made belong to the reports that are not live, one to each. -/
structure OneLookupEach (reports : List NodeReport) (asked : List Node) : Prop where
  own : ∀ (i : Nat) (r : NodeReport), reports[i]? = some r → r.isLive = false →
    asked[lookupNumber reports i]? = some r.node
  only : ∀ k < asked.length, ∃ i r, reports[i]? = some r ∧ r.isLive = false ∧
    lookupNumber reports i = k ∧ ∀ (j : Nat) (s : NodeReport), reports[j]? = some s →
      s.isLive = false → lookupNumber reports j = k → j = i

theorem oneLookupEach_nodesToRecover (reports : List NodeReport) :
    OneLookupEach reports (nodesToRecover reports) where
  own := fun _ _ hr hdown => getElem?_nodesToRecover hr hdown
  only := by
    intro k hk
    obtain ⟨i, r, hr, hdown, hi⟩ := exists_lookupNumber hk
    refine ⟨i, r, hr, hdown, hi, ?_⟩
    intro j s hs hsdown hj
    exact lookupNumber_inj hs hsdown hr hdown (hj.trans hi.symm)

/-- A worker that is not cancelled before it starts asks its node. -/
theorem askedNodes_fanOut {α : Type} (limit : Duration) (cancel : Option Nat) (start : Nat)
    (nodes : List Node) (source : Node → Course (Ending α)) :
    askedNodes nodes (fanOut limit cancel start (nodes.map source)) =
      if cancelledBy cancel start then [] else nodes := by
  have hasked : ∀ x ∈ nodes.zip (fanOut limit cancel start (nodes.map source)),
      x.2.asked = !cancelledBy cancel start := by
    rintro ⟨n, w⟩ hx
    obtain ⟨c, -, rfl⟩ := List.mem_map.mp (List.of_mem_zip hx).2
    rfl
  rw [askedNodes]
  cases hc : cancelledBy cancel start with
  | true =>
    rw [if_pos rfl, List.filter_eq_nil_iff.mpr, List.map_nil]
    intro x hx
    simp [hasked x hx, hc]
  | false =>
    rw [if_neg Bool.false_ne_true, List.filter_eq_self.mpr, List.map_fst_zip (by simp [fanOut])]
    intro x hx
    simp [hasked x hx, hc]

/-- Answers that go by nodes are answers to lookups. -/
theorem exists_lookupAnswers_eq (reports : List NodeReport)
    (answer : Node → Except Failure Int64) :
    ∃ lookup, (∀ (k : Nat) (n : Node), (nodesToRecover reports)[k]? = some n →
        lookup k = answer n) ∧
      (nodesToRecover reports).map answer = lookupAnswers reports lookup := by
  refine ⟨fun k => ((nodesToRecover reports)[k]?.map answer).getD (answer default), ?_, ?_⟩
  · intro k n hn
    simp only [hn, Option.map_some, Option.getD_some]
  · apply List.ext_getElem
    · simp [lookupAnswers]
    · intro k h₁ h₂
      rw [List.length_map] at h₁
      simp [lookupAnswers, List.getElem?_eq_getElem h₁]

/-- **Every node gets the answer of its own agent.** Whatever the lookups answer, the reports stay
at their nodes, a live one as it was, and any other with the answer of the lookup that was made for
it; no report is left without one. A lookup is made for every report that is not live, and for
nothing else. In a run the lookups answer what is left in the slots of their own workers, and all of
them are begun unless the run is cancelled before. -/
theorem recovered_by_own_lookup (reports : List NodeReport) :
    (∀ lookup : Nat → Except Failure Int64,
      ByOwnLookup reports lookup (recovered reports (lookupAnswers reports lookup)) ∧
      ∀ r ∈ recovered reports (lookupAnswers reports lookup), ∀ f, r.state ≠ .down f none) ∧
    OneLookupEach reports (nodesToRecover reports) ∧
    ∀ (source : Node → Course (Ending Int64)) (limit : Duration) (cancel : Option Nat)
      (start : Nat), ∃ lookup,
      (∀ (k : Nat) (n : Node), (nodesToRecover reports)[k]? = some n →
        lookup k = (source n).outcome .seqno limit cancel start) ∧
      (recoverSeqnos source limit cancel start reports).reports =
        recovered reports (lookupAnswers reports lookup) ∧
      (recoverSeqnos source limit cancel start reports).asked =
        if cancelledBy cancel start then [] else nodesToRecover reports := by
  refine ⟨?_, oneLookupEach_nodesToRecover reports, ?_⟩
  · intro lookup
    have hown := byOwnLookup_recovered reports lookup
    exact ⟨hown, fun r hr f => hown.no_gap hr f⟩
  · intro source limit cancel start
    obtain ⟨lookup, hlookup, hanswers⟩ := exists_lookupAnswers_eq reports fun n =>
      (source n).outcome .seqno limit cancel start
    refine ⟨lookup, hlookup, ?_, askedNodes_fanOut limit cancel start _ source⟩
    rw [← hanswers, recoverSeqnos, slots_fanOut, List.map_map]
    rfl

end GaleraHealth
