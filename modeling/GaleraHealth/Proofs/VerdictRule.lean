import GaleraHealth.Proofs.Health

/-!
# The rule behind the verdict

`Verdict.decide` searches the reports twice, once for a healthy node and once with a running best
for a bootstrap candidate. This file states the rule that it follows without any search:

* `NodeReport.Knows`: which sequence numbers a report knows. A node that is down and was not
  recovered knows none, and no report knows a negative one.
* `IsBest`: the first report that knows the highest known number, or nobody when none is known.
  `isBest_better` carries it over one report, `isBest_candidate?` over the whole list.
* `IsVerdict`: the verdict that a list of reports calls for, one constructor per kind of verdict.
* `needsBootstrap_decide_iff`, `decide_eq_manual_iff`, `serves_of_notNeeded`, `isBest_of_bootstrap`:
  the rule read off a verdict that was given.

`decide_eq_iff` says that `Verdict.decide` answers exactly the verdict that is called for.
-/

namespace GaleraHealth

/-- The first member of a list with a property. -/
def IsFirst {α : Type} (P : α → Prop) (xs : List α) (x : α) : Prop :=
  P x ∧ ∃ before after, xs = before ++ x :: after ∧ ∀ y ∈ before, ¬ P y

theorem IsFirst.mem {α : Type} {P : α → Prop} {xs : List α} {x : α} (h : IsFirst P xs x) :
    x ∈ xs := by
  obtain ⟨-, before, after, rfl, -⟩ := h
  simp

/-- The first member of a list is its head, or else the first of the rest. -/
theorem isFirst_cons_iff {α : Type} {P : α → Prop} {x y : α} {ys : List α} :
    IsFirst P (y :: ys) x ↔ P y ∧ x = y ∨ ¬ P y ∧ IsFirst P ys x := by
  constructor
  · rintro ⟨hx, before, after, hsplit, hbefore⟩
    cases before with
    | nil =>
      cases hsplit
      exact .inl ⟨hx, rfl⟩
    | cons b before =>
      cases hsplit
      rw [List.forall_mem_cons] at hbefore
      exact .inr ⟨hbefore.1, hx, before, after, rfl, hbefore.2⟩
  · rintro (⟨hy, rfl⟩ | ⟨hy, hx, before, after, rfl, hbefore⟩)
    · exact ⟨hy, [], ys, rfl, List.forall_mem_nil _⟩
    · exact ⟨hx, y :: before, after, rfl, List.forall_mem_cons.mpr ⟨hy, hbefore⟩⟩

/-- A later member does not change which one is the first. -/
theorem IsFirst.append {α : Type} {P : α → Prop} {xs : List α} {x : α} (h : IsFirst P xs x)
    (ys : List α) : IsFirst P (xs ++ ys) x := by
  obtain ⟨hx, before, after, rfl, hbefore⟩ := h
  exact ⟨hx, before, after ++ ys, by simp, hbefore⟩

/-- A member with the property is the first one if nobody stands before it who has it. -/
theorem isFirst_concat {α : Type} {P : α → Prop} {xs : List α} {x : α} (hx : P x)
    (hxs : ∀ y ∈ xs, ¬ P y) : IsFirst P (xs ++ [x]) x :=
  ⟨hx, xs, [], rfl, hxs⟩

theorem find?_eq_some_iff_isFirst {α : Type} {p : α → Bool} {P : α → Prop} {xs : List α} {x : α}
    (h : ∀ y, p y = true ↔ P y) : xs.find? p = some x ↔ IsFirst P xs x := by
  have hnot : ∀ y, (!p y) = true ↔ ¬ P y := by
    intro y
    rw [← h, Bool.not_eq_true', Bool.not_eq_true]
  simp only [List.find?_eq_some_iff_append, IsFirst, h, hnot]

/-- Two members that are both the first are the same. -/
theorem IsFirst.unique {α : Type} {P : α → Prop} {xs : List α} {x y : α} (hx : IsFirst P xs x)
    (hy : IsFirst P xs y) : x = y := by
  classical
  have hdec : ∀ z, decide (P z) = true ↔ P z := fun z => decide_eq_true_iff
  rw [← find?_eq_some_iff_isFirst hdec] at hx hy
  exact Option.some.inj (hx.symm.trans hy)

/-! ### Known sequence numbers -/

/-- A report knows a sequence number: the last committed one of a live node, or the one that was
recovered of a node that is down. -/
inductive NodeReport.Knows : NodeReport → Int64 → Prop
  | live {node : Node} {s : NodeStatus} {n : Int64} :
      s.lastCommitted = some n → 0 ≤ n → Knows ⟨node, .live s⟩ n
  | recovered {node : Node} {f : Failure} {n : Int64} :
      0 ≤ n → Knows ⟨node, .recovered f n⟩ n

theorem knownSeqno?_eq_some_iff {r : NodeReport} {n : Int64} :
    r.knownSeqno? = some n ↔ r.Knows n := by
  obtain ⟨node, state⟩ := r
  simp only [NodeReport.knownSeqno?, Option.filter_eq_some_iff, decide_eq_true_eq]
  cases state with
  | live s =>
    constructor
    · rintro ⟨hlast, hn⟩
      exact .live hlast hn
    · rintro ⟨hlast, hn⟩
      exact ⟨hlast, hn⟩
  | recovered f m =>
    constructor
    · rintro ⟨hm, hn⟩
      cases hm
      exact .recovered hn
    · intro h
      cases h with
      | recovered hn => exact ⟨rfl, hn⟩
  | down f a =>
    constructor
    · rintro ⟨hnone, -⟩
      cases hnone
    · rintro ⟨⟩

theorem knownSeqno?_eq_none_iff {r : NodeReport} :
    r.knownSeqno? = none ↔ ∀ n, ¬ r.Knows n := by
  rw [Option.eq_none_iff_forall_ne_some]
  simp only [ne_eq, knownSeqno?_eq_some_iff]

theorem NodeReport.Knows.unique {r : NodeReport} {m n : Int64} (hm : r.Knows m)
    (hn : r.Knows n) : m = n := by
  rw [← knownSeqno?_eq_some_iff] at hm hn
  exact Option.some.inj (hm.symm.trans hn)

theorem NodeReport.Knows.nonneg {r : NodeReport} {n : Int64} (h : r.Knows n) : 0 ≤ n :=
  NodeReport.knownSeqno?_nonneg (knownSeqno?_eq_some_iff.mpr h)

namespace Verdict

/-! ### The candidate -/

/-- The best of some reports: the first that knows the highest number any of them knows, or nobody
if no number is known. -/
def IsBest (reports : List NodeReport) : Option (NodeReport × Int64) → Prop
  | none => ∀ r ∈ reports, ∀ n, ¬ r.Knows n
  | some (r, n) =>
    IsFirst (NodeReport.Knows · n) reports r ∧ ∀ x ∈ reports, ∀ m, x.Knows m → m ≤ n

/-- **One step of the search.** The running best of the reports seen so far, compared with the next
report, is the best of both. -/
theorem isBest_better {seen : List NodeReport} {best : Option (NodeReport × Int64)}
    (h : IsBest seen best) (r : NodeReport) : IsBest (seen ++ [r]) (better best r) := by
  cases hr : r.knownSeqno? with
  | none =>
    have hnone := knownSeqno?_eq_none_iff.mp hr
    cases best with
    | none =>
      simp only [better, hr]
      exact List.forall_mem_append.mpr ⟨h, List.forall_mem_singleton.mpr hnone⟩
    | some b =>
      simp only [better, hr]
      refine ⟨h.1.append [r], List.forall_mem_append.mpr ⟨h.2, List.forall_mem_singleton.mpr ?_⟩⟩
      intro m hm
      exact absurd hm (hnone m)
  | some n =>
    have hn := knownSeqno?_eq_some_iff.mp hr
    have hr_le : ∀ m, r.Knows m → m ≤ n := fun m hm => Int64.le_of_eq (hm.unique hn)
    cases best with
    | none =>
      simp only [better, hr]
      refine ⟨isFirst_concat hn (fun y hy => h y hy n),
        List.forall_mem_append.mpr ⟨?_, List.forall_mem_singleton.mpr hr_le⟩⟩
      intro x hx m hm
      exact absurd hm (h x hx m)
    | some b =>
      obtain ⟨b, k⟩ := b
      obtain ⟨hfirst, hmax⟩ := h
      by_cases hlt : k < n
      · -- a strictly higher number: nobody seen so far knows it
        simp only [better, hr, if_pos hlt]
        refine ⟨isFirst_concat hn (fun y hy hyn => ?_),
          List.forall_mem_append.mpr ⟨?_, List.forall_mem_singleton.mpr hr_le⟩⟩
        · exact Int64.not_lt.mpr (hmax y hy n hyn) hlt
        · intro x hx m hm
          exact Int64.le_trans (hmax x hx m hm) (Int64.le_of_lt hlt)
      · simp only [better, hr, if_neg hlt]
        refine ⟨hfirst.append [r],
          List.forall_mem_append.mpr ⟨hmax, List.forall_mem_singleton.mpr ?_⟩⟩
        intro m hm
        exact Int64.le_trans (hr_le m hm) (Int64.not_lt.mp hlt)

theorem isBest_foldl {seen : List NodeReport} {best : Option (NodeReport × Int64)}
    (h : IsBest seen best) (rest : List NodeReport) :
    IsBest (seen ++ rest) (rest.foldl better best) := by
  induction rest generalizing seen best with
  | nil => simpa using h
  | cons r rest ih =>
    have hstep := ih (isBest_better h r)
    rwa [List.append_assoc, List.singleton_append] at hstep

theorem isBest_candidate? (reports : List NodeReport) : IsBest reports (candidate? reports) := by
  have hnil : IsBest [] none := by
    intro r hr
    cases hr
  exact isBest_foldl hnil reports

/-- There is only one best of some reports. -/
theorem IsBest.unique {reports : List NodeReport} {a b : Option (NodeReport × Int64)}
    (ha : IsBest reports a) (hb : IsBest reports b) : a = b := by
  cases a with
  | none =>
    cases b with
    | none => rfl
    | some b => exact absurd hb.1.1 (ha b.1 hb.1.mem b.2)
  | some a =>
    cases b with
    | none => exact absurd ha.1.1 (hb a.1 ha.1.mem a.2)
    | some b =>
      obtain ⟨r, m⟩ := a
      obtain ⟨s, n⟩ := b
      have hmn : m = n :=
        Int64.le_antisymm (hb.2 r ha.1.mem m ha.1.1) (ha.2 s hb.1.mem n hb.1.1)
      subst hmn
      rw [ha.1.unique hb.1]

/-! ### The verdict -/

/-- A live report of a node that can serve. -/
def Serves (q : Quorum) (configured : Nat) (r : NodeReport) : Prop :=
  ∃ s, r.state = .live s ∧ q.Healthy s configured

theorem isServing_iff (q : Quorum) (reports : List NodeReport) (r : NodeReport) :
    isServing q (nodeCount reports) r = true ↔ Serves q reports.length r := by
  obtain ⟨node, state⟩ := r
  simp only [isServing, Option.any_eq_true, isHealthy_nodeCount, Serves]
  cases state with
  | live s => simp [NodeReport.status?]
  | recovered f n => simp [NodeReport.status?]
  | down f a => simp [NodeReport.status?]

/-- The verdict that a list of reports calls for. -/
inductive IsVerdict (q : Quorum) (reports : List NodeReport) : Verdict → Prop
  /-- The first node that can serve is named. -/
  | notNeeded {r : NodeReport} : IsFirst (Serves q reports.length) reports r →
      IsVerdict q reports (.notNeeded r.node.identity)
  /-- Nobody can serve, and this is the first of those that know the highest number. -/
  | bootstrap {r : NodeReport} {n : Int64} : (∀ x ∈ reports, ¬ Serves q reports.length x) →
      IsFirst (NodeReport.Knows · n) reports r → (∀ x ∈ reports, ∀ m, x.Knows m → m ≤ n) →
      IsVerdict q reports (.bootstrap r.node.identity n)
  /-- Nobody can serve, and no number is known. -/
  | manualInvestigation : (∀ x ∈ reports, ¬ Serves q reports.length x) →
      (∀ x ∈ reports, ∀ n, ¬ x.Knows n) → IsVerdict q reports .manualInvestigation

theorem isVerdict_decide (q : Quorum) (reports : List NodeReport) :
    IsVerdict q reports (decide q reports) := by
  unfold decide
  cases hfind : reports.find? (isServing q (nodeCount reports)) with
  | some r => exact .notNeeded ((find?_eq_some_iff_isFirst (isServing_iff q reports)).mp hfind)
  | none =>
    have hnobody : ∀ x ∈ reports, ¬ Serves q reports.length x := by
      intro x hx hserves
      exact List.find?_eq_none.mp hfind x hx ((isServing_iff q reports x).mpr hserves)
    have hbest := isBest_candidate? reports
    cases hcand : candidate? reports with
    | none =>
      rw [hcand] at hbest
      exact .manualInvestigation hnobody hbest
    | some c =>
      rw [hcand] at hbest
      exact .bootstrap hnobody hbest.1 hbest.2

theorem IsVerdict.unique {q : Quorum} {reports : List NodeReport} {v w : Verdict}
    (hv : IsVerdict q reports v) (hw : IsVerdict q reports w) : v = w := by
  cases hv with
  | notNeeded hr =>
    cases hw with
    | notNeeded hs => rw [hr.unique hs]
    | bootstrap hnobody => exact absurd hr.1 (hnobody _ hr.mem)
    | manualInvestigation hnobody => exact absurd hr.1 (hnobody _ hr.mem)
  | bootstrap hnobody hfirst hmax =>
    cases hw with
    | notNeeded hs => exact absurd hs.1 (hnobody _ hs.mem)
    | bootstrap _ hfirst' hmax' =>
      have hsame :=
        IsBest.unique (a := some (_, _)) (b := some (_, _)) ⟨hfirst, hmax⟩ ⟨hfirst', hmax'⟩
      cases hsame
      rfl
    | manualInvestigation _ hnone => exact absurd hfirst.1 (hnone _ hfirst.mem _)
  | manualInvestigation hnobody hnone =>
    cases hw with
    | notNeeded hs => exact absurd hs.1 (hnobody _ hs.mem)
    | bootstrap _ hfirst _ => exact absurd hfirst.1 (hnone _ hfirst.mem _)
    | manualInvestigation => rfl

/-! ### What a verdict says about the reports -/

/-- A bootstrap is needed exactly when nobody can serve. -/
theorem needsBootstrap_decide_iff (q : Quorum) (reports : List NodeReport) :
    (decide q reports).needsBootstrap = true ↔ ∀ x ∈ reports, ¬ Serves q reports.length x := by
  have hverdict := isVerdict_decide q reports
  generalize decide q reports = v at hverdict ⊢
  cases hverdict with
  | notNeeded hfirst =>
    constructor
    · intro h
      cases h
    · intro h
      exact absurd hfirst.1 (h _ hfirst.mem)
  | bootstrap hnobody => exact ⟨fun _ => hnobody, fun _ => rfl⟩
  | manualInvestigation hnobody => exact ⟨fun _ => hnobody, fun _ => rfl⟩

/-- The decision is left to people exactly when nobody can serve and no number is known. -/
theorem decide_eq_manual_iff (q : Quorum) (reports : List NodeReport) :
    decide q reports = .manualInvestigation ↔
      (∀ x ∈ reports, ¬ Serves q reports.length x) ∧ ∀ x ∈ reports, ∀ n, ¬ x.Knows n := by
  have hverdict := isVerdict_decide q reports
  constructor
  · intro hv
    rw [hv] at hverdict
    cases hverdict with
    | manualInvestigation hnobody hnone => exact ⟨hnobody, hnone⟩
  · rintro ⟨hnobody, hnone⟩
    exact hverdict.unique (.manualInvestigation hnobody hnone)

/-- A node that is named as healthy can serve. -/
theorem serves_of_notNeeded {q : Quorum} {reports : List NodeReport} {name : String}
    (h : decide q reports = .notNeeded name) :
    ∃ r ∈ reports, r.node.identity = name ∧ Serves q reports.length r := by
  have hverdict := isVerdict_decide q reports
  rw [h] at hverdict
  cases hverdict with
  | notNeeded hfirst => exact ⟨_, hfirst.mem, rfl, hfirst.1⟩

/-- A candidate knows the number in the verdict, and nobody knows a higher one. -/
theorem isBest_of_bootstrap {q : Quorum} {reports : List NodeReport} {name : String} {n : Int64}
    (h : decide q reports = .bootstrap name n) :
    ∃ r ∈ reports, r.node.identity = name ∧ r.Knows n ∧
      ∀ x ∈ reports, ∀ m, x.Knows m → m ≤ n := by
  have hverdict := isVerdict_decide q reports
  rw [h] at hverdict
  cases hverdict with
  | bootstrap _ hfirst hmax => exact ⟨_, hfirst.mem, rfl, hfirst.1, hmax⟩

/-- **The verdict is the one that the reports call for**, and no other. -/
theorem decide_eq_iff (q : Quorum) (reports : List NodeReport) (v : Verdict) :
    decide q reports = v ↔ IsVerdict q reports v := by
  constructor
  · rintro rfl
    exact isVerdict_decide q reports
  · exact (isVerdict_decide q reports).unique

/-- Of two nodes with the same number, the one that stands first is the candidate. -/
example :
    let down := NodeState.recovered ⟨.unreachable, "connection refused"⟩ 7
    decide .standard [⟨⟨"10.0.0.1", "mysql", "a", none⟩, .down ⟨.timeout, "too late"⟩ none⟩,
      ⟨⟨"10.0.0.2", "mysql", "b", none⟩, down⟩, ⟨⟨"10.0.0.3", "mysql", "c", none⟩, down⟩] =
        .bootstrap "mysql/b" 7 := by
  decide +kernel

end Verdict

end GaleraHealth
