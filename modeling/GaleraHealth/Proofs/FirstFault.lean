import GaleraHealth.Proofs.WellFormedConfig
import GaleraHealth.Proofs.VerdictRule

/-!
# Which fault of a configuration is reported

`ClusterConfig.FirstFault` says which fault is the first in the order of the checks: everything that
is checked before it is in order. The theorem of this file is that `validate` reports it.

* `forM_eq_error_iff`: a row of checks reports its first failure.
* `checkNodes_eq_error_iff`: the check of the nodes reports the first node that collides with an
  earlier one.
* `validate_eq_rows`: the checks of a configuration as rows, one after the other.
* `validate_eq_ok_iff_wellFormed`, `validate_eq_error_iff_firstFault`: what they come to.
-/

namespace GaleraHealth

/-! ### The first fault -/

/-- What a node has in common with earlier ones: its identity, or else its address. -/
inductive DatabaseSettings.Collision (d : DatabaseSettings) (earlier : List Node) (n : Node) :
    ConfigFault → Prop
  | identity : n.identity ∈ earlier.map Node.identity →
      Collision d earlier n (.duplicateNode n.identity)
  | address : n.identity ∉ earlier.map Node.identity → d.address n ∈ earlier.map d.address →
      Collision d earlier n (.duplicateNode (d.endpoint n))

/-- Why TLS settings that are enabled trust nobody. -/
inductive TlsSettings.Distrust (t : TlsSettings) : TlsFault → Prop
  | badCa {f : Pem.Fault} : t.enabled → Pem.certificates t.ca = .error f → Distrust t (.badCa f)
  | noCa : t.enabled → Pem.certificates t.ca = .ok [] → Distrust t .noCa

/-- The first fault of a configuration: everything that is checked before it is in order. -/
inductive ClusterConfig.FirstFault (c : ClusterConfig) : ConfigFault → Prop
  | noNodes : c.nodes = [] → FirstFault c .noNodes
  | node {before after : List Node} {n : Node} {e : ConfigFault} :
      c.nodes = before ++ n :: after → c.database.Distinct before →
      c.database.Collision before n e → FirstFault c e
  | threshold {field : String} {value : Float} :
      c.nodes ≠ [] → c.database.Distinct c.nodes →
      IsFirst (fun f => ¬ IsFraction f.2) c.database.thresholds.fields (field, value) →
      FirstFault c (.invalidThreshold field value)
  | timeout {field : String} {secs : UInt64} :
      c.nodes ≠ [] → c.database.Distinct c.nodes →
      (∀ f ∈ c.database.thresholds.fields, IsFraction f.2) →
      IsFirst (fun f => ¬ IsTimeout f.2) c.timeouts.fields (field, secs) →
      FirstFault c (.invalidTimeout field)
  | quorum : c.nodes ≠ [] → c.database.Distinct c.nodes →
      (∀ f ∈ c.database.thresholds.fields, IsFraction f.2) →
      (∀ f ∈ c.timeouts.fields, IsTimeout f.2) →
      ¬ c.quorum.IsComplete → FirstFault c .invalidQuorum
  | tls {part : String} {t : TlsSettings} {f : TlsFault} :
      c.nodes ≠ [] → c.database.Distinct c.nodes →
      (∀ f ∈ c.database.thresholds.fields, IsFraction f.2) →
      (∀ f ∈ c.timeouts.fields, IsTimeout f.2) → c.quorum.IsComplete →
      IsFirst (fun s => ¬ s.2.IsTrusting) c.tlsSections (part, t) → t.Distrust f →
      FirstFault c (.invalidTls part f)

/-! ### Checks in a row -/

section Rows

variable {α ε : Type} {check : α → Except ε Unit} {P : α → Prop}

/-- A row of checks passes exactly when each of them does. -/
theorem forM_eq_ok_iff (h : ∀ x, check x = .ok () ↔ P x) (xs : List α) :
    xs.forM check = .ok () ↔ ∀ x ∈ xs, P x := by
  induction xs with
  | nil => exact ⟨fun _ _ hx => absurd hx List.not_mem_nil, fun _ => rfl⟩
  | cons x xs ih =>
    show (check x >>= fun _ => xs.forM check) = .ok () ↔ _
    rw [bind_eq_ok_iff, ih, h, List.forall_mem_cons]

/-- **A row of checks reports its first failure.** -/
theorem forM_eq_error_iff (h : ∀ x, check x = .ok () ↔ P x) (xs : List α) (e : ε) :
    xs.forM check = .error e ↔ ∃ x, IsFirst (fun y => ¬ P y) xs x ∧ check x = .error e := by
  induction xs with
  | nil =>
    constructor
    · intro he
      cases he
    · rintro ⟨x, hx, -⟩
      exact absurd hx.mem List.not_mem_nil
  | cons x xs ih =>
    show (check x >>= fun _ => xs.forM check) = .error e ↔ _
    rw [bind_eq_error_iff, ih]
    simp only [isFirst_cons_iff]
    constructor
    · rintro (he | ⟨hok, y, hy, he⟩)
      · refine ⟨x, .inl ⟨?_, rfl⟩, he⟩
        intro hx
        rw [(h x).mpr hx] at he
        cases he
      · exact ⟨y, .inr ⟨not_not_intro ((h x).mp hok), hy⟩, he⟩
    · rintro ⟨y, ⟨-, rfl⟩ | ⟨hnot, hy⟩, he⟩
      · exact .inl he
      · exact .inr ⟨(h x).mpr (Classical.not_not.mp hnot), y, hy, he⟩

end Rows

/-! ### The check of TLS settings -/

theorem tlsCheck_eq_error_iff {t : TlsSettings} {f : TlsFault} :
    t.check = .error f ↔ t.Distrust f := by
  unfold TlsSettings.check
  constructor
  · intro h
    cases henabled : t.enabled with
    | false => simp [henabled] at h
    | true =>
      cases hread : Pem.certificates t.ca with
      | error g =>
        simp only [henabled, hread] at h
        cases h
        exact .badCa henabled hread
      | ok certificates =>
        cases certificates with
        | nil =>
          simp only [henabled, hread] at h
          cases h
          exact .noCa henabled hread
        | cons certificate rest =>
          simp only [henabled, hread] at h
          cases h
  · rintro (⟨henabled, hread⟩ | ⟨henabled, hread⟩) <;> simp [henabled, hread]

/-! ### The check of the nodes -/

/-- **The check of the nodes reports the first collision.** The texts it remembers are those of the
nodes before the one it stands at, the latest first, on top of those it started with. -/
theorem checkNodes_eq_error_iff (d : DatabaseSettings) (identities endpoints : List String)
    (nodes : List Node) (e : ConfigFault) : d.checkNodes identities endpoints nodes = .error e ↔
      ∃ before n after, nodes = before ++ n :: after ∧
        Fresh Node.identity identities before ∧ Fresh d.endpoint endpoints before ∧
        (n.identity ∈ before.reverse.map Node.identity ++ identities ∧
            .duplicateNode n.identity = e ∨
          n.identity ∉ before.reverse.map Node.identity ++ identities ∧
            d.endpoint n ∈ before.reverse.map d.endpoint ++ endpoints ∧
            .duplicateNode (d.endpoint n) = e) := by
  induction nodes generalizing identities endpoints with
  | nil =>
    rw [DatabaseSettings.checkNodes]
    constructor
    · intro h
      cases h
    · rintro ⟨before, n, after, h, -⟩
      simp at h
  | cons m rest ih =>
    rw [DatabaseSettings.checkNodes]
    constructor
    · intro h
      by_cases hidentity : m.identity ∈ identities
      · rw [if_pos hidentity] at h
        cases h
        exact ⟨[], m, rest, rfl, fresh_nil _ _, fresh_nil _ _, .inl ⟨hidentity, rfl⟩⟩
      · rw [if_neg hidentity] at h
        by_cases hendpoint : d.endpoint m ∈ endpoints
        · rw [if_pos hendpoint] at h
          cases h
          exact ⟨[], m, rest, rfl, fresh_nil _ _, fresh_nil _ _,
            .inr ⟨hidentity, hendpoint, rfl⟩⟩
        · rw [if_neg hendpoint, ih] at h
          obtain ⟨before, n, after, rfl, hids, heps, hfault⟩ := h
          refine ⟨m :: before, n, after, rfl, fresh_cons.mpr ⟨hidentity, hids⟩,
            fresh_cons.mpr ⟨hendpoint, heps⟩, ?_⟩
          -- the texts of `m` were put on top, which is where `before` in reverse ends
          simpa using hfault
    · rintro ⟨before, n, after, hsplit, hids, heps, hfault⟩
      cases before with
      | nil =>
        cases hsplit
        rcases hfault with ⟨hidentity, rfl⟩ | ⟨hidentity, hendpoint, rfl⟩
        · exact if_pos hidentity
        · rw [if_neg (show m.identity ∉ identities from hidentity),
            if_pos (show d.endpoint m ∈ endpoints from hendpoint)]
      | cons b before =>
        cases hsplit
        rw [fresh_cons] at hids heps
        rw [if_neg hids.1, if_neg heps.1, ih]
        refine ⟨before, n, after, rfl, hids.2, heps.2, ?_⟩
        simpa using hfault

theorem checkNodes_eq_error_iff_collision (d : DatabaseSettings) (nodes : List Node)
    (e : ConfigFault) : d.checkNodes [] [] nodes = .error e ↔
      ∃ before n after, nodes = before ++ n :: after ∧ d.Distinct before ∧
        d.Collision before n e := by
  have hcollision : ∀ before n, d.Collision before n e ↔
      n.identity ∈ before.map Node.identity ∧ .duplicateNode n.identity = e ∨
      n.identity ∉ before.map Node.identity ∧ d.endpoint n ∈ before.map d.endpoint ∧
        .duplicateNode (d.endpoint n) = e := by
    intro before n
    rw [endpoint_mem_iff]
    constructor
    · rintro (h | ⟨hidentity, haddress⟩)
      · exact .inl ⟨h, rfl⟩
      · exact .inr ⟨hidentity, haddress, rfl⟩
    · rintro (⟨h, rfl⟩ | ⟨hidentity, haddress, rfl⟩)
      · exact .identity h
      · exact .address hidentity haddress
  rw [checkNodes_eq_error_iff]
  simp only [hcollision, distinct_iff_fresh, List.append_nil, List.map_reverse, List.mem_reverse,
    and_assoc]

/-- A name that looks like the identity of another node is taken for it. -/
example (d : DatabaseSettings) :
    d.checkNodes [] [] [⟨"10.0.0.1", "db", "0", none⟩, ⟨"10.0.0.2", "db/0", "", none⟩] =
      .error (.duplicateNode "db/0") := rfl

/-! ### The whole check -/

theorem tlsSections_forM (c : ClusterConfig) :
    (c.tlsSections.forM fun s => s.2.check.mapError (.invalidTls s.1)) =
      checkAgent "mysql.agent" c.database.agent >>= fun _ =>
        checkAgent "galera_agent" c.galeraAgent := by
  have hfirst : ∀ x : Except ConfigFault Unit, (Except.ok () >>= fun _ => x) = x := fun _ => rfl
  have hlast : ∀ x : Except ConfigFault Unit, (x >>= fun _ => .ok ()) = x := by
    rintro (_ | _) <;> rfl
  have hnone : (pure () : Except ConfigFault Unit) = .ok () := rfl
  unfold ClusterConfig.tlsSections
  cases c.database.agent <;> cases c.galeraAgent <;> simp [checkAgent, hfirst, hlast, hnone]

/-- The checks of a configuration, row by row. -/
theorem validate_eq_rows (c : ClusterConfig) : c.validate = (do
    if c.nodes.isEmpty then throw .noNodes
    c.database.checkNodes [] [] c.nodes
    c.database.thresholds.fields.forM fun f => checkFraction f.1 f.2
    c.timeouts.fields.forM fun f => checkTimeout f.1 f.2
    if c.quorum.policy?.isNone then throw .invalidQuorum
    c.tlsSections.forM fun s => s.2.check.mapError (.invalidTls s.1)) := by
  simp only [ClusterConfig.validate, tlsSections_forM, Thresholds.fields, Timeouts.fields,
    List.forM_eq_forM, List.forM_cons, List.forM_nil, bind_assoc, pure_bind]

section Fields

variable (c : ClusterConfig)

theorem fractionCheck_eq_ok_iff (f : String × Float) :
    checkFraction f.1 f.2 = .ok () ↔ IsFraction f.2 := by
  rw [checkFraction_eq, ite_ok_eq_ok_iff]

theorem timeoutCheck_eq_ok_iff (f : String × UInt64) :
    checkTimeout f.1 f.2 = .ok () ↔ IsTimeout f.2 := by
  rw [checkTimeout_eq, ite_ok_eq_ok_iff]

theorem sectionCheck_eq_ok_iff (s : String × TlsSettings) :
    s.2.check.mapError (ConfigFault.invalidTls s.1) = .ok () ↔ s.2.IsTrusting := by
  rw [← tlsCheck_eq_ok_iff]
  cases s.2.check with
  | ok _ => exact ⟨fun _ => rfl, fun _ => rfl⟩
  | error f =>
    constructor
    · intro h
      cases h
    · intro h
      cases h

theorem thresholds_eq_error_iff (e : ConfigFault) :
    (c.database.thresholds.fields.forM fun f => checkFraction f.1 f.2) = .error e ↔
      ∃ field value, IsFirst (fun f => ¬ IsFraction f.2) c.database.thresholds.fields
        (field, value) ∧ .invalidThreshold field value = e := by
  rw [forM_eq_error_iff fractionCheck_eq_ok_iff]
  constructor
  · rintro ⟨⟨field, value⟩, hfirst, he⟩
    rw [checkFraction_eq, ite_ok_eq_error_iff] at he
    exact ⟨field, value, hfirst, he.2⟩
  · rintro ⟨field, value, hfirst, rfl⟩
    refine ⟨(field, value), hfirst, ?_⟩
    rw [checkFraction_eq, if_neg hfirst.1]

theorem timeouts_eq_error_iff (e : ConfigFault) :
    (c.timeouts.fields.forM fun f => checkTimeout f.1 f.2) = .error e ↔
      ∃ field secs, IsFirst (fun f => ¬ IsTimeout f.2) c.timeouts.fields (field, secs) ∧
        .invalidTimeout field = e := by
  rw [forM_eq_error_iff timeoutCheck_eq_ok_iff]
  constructor
  · rintro ⟨⟨field, secs⟩, hfirst, he⟩
    rw [checkTimeout_eq, ite_ok_eq_error_iff] at he
    exact ⟨field, secs, hfirst, he.2⟩
  · rintro ⟨field, secs, hfirst, rfl⟩
    refine ⟨(field, secs), hfirst, ?_⟩
    rw [checkTimeout_eq, if_neg hfirst.1]

theorem tlsSections_eq_error_iff (e : ConfigFault) :
    (c.tlsSections.forM fun s => s.2.check.mapError (.invalidTls s.1)) = .error e ↔
      ∃ part t f, IsFirst (fun s => ¬ s.2.IsTrusting) c.tlsSections (part, t) ∧ t.Distrust f ∧
        .invalidTls part f = e := by
  rw [forM_eq_error_iff sectionCheck_eq_ok_iff]
  constructor
  · rintro ⟨⟨part, t⟩, hfirst, he⟩
    cases hcheck : t.check with
    | ok _ =>
      rw [hcheck] at he
      cases he
    | error f =>
      rw [hcheck] at he
      cases he
      exact ⟨part, t, f, hfirst, tlsCheck_eq_error_iff.mp hcheck, rfl⟩
  · rintro ⟨part, t, f, hfirst, hdistrust, rfl⟩
    refine ⟨(part, t), hfirst, ?_⟩
    rw [tlsCheck_eq_error_iff.mpr hdistrust]
    rfl

end Fields

/-- **Accepted configurations are the well-formed ones.** -/
theorem validate_eq_ok_iff_wellFormed (c : ClusterConfig) :
    c.validate = .ok () ↔ c.WellFormed := by
  simp only [validate_eq_rows, throw_guard_eq_ok_iff, bind_eq_ok_iff,
    forM_eq_ok_iff fractionCheck_eq_ok_iff, forM_eq_ok_iff timeoutCheck_eq_ok_iff,
    forM_eq_ok_iff sectionCheck_eq_ok_iff, checkNodes_eq_ok_iff_distinct, List.isEmpty_eq_false_iff,
    policy?_isNone_eq_false_iff]
  constructor
  · rintro ⟨hnonempty, hdistinct, hthresholds, htimeouts, hquorum, htls⟩
    exact ⟨hnonempty, hdistinct, hthresholds, htimeouts, hquorum, htls⟩
  · rintro ⟨hnonempty, hdistinct, hthresholds, htimeouts, hquorum, htls⟩
    exact ⟨hnonempty, hdistinct, hthresholds, htimeouts, hquorum, htls⟩

/-- **The fault that is reported is the first one.** -/
theorem validate_eq_error_iff_firstFault (c : ClusterConfig) (e : ConfigFault) :
    c.validate = .error e ↔ c.FirstFault e := by
  simp only [validate_eq_rows, throw_guard_eq_error_iff, bind_eq_error_iff]
  simp only [thresholds_eq_error_iff, timeouts_eq_error_iff, tlsSections_eq_error_iff,
    forM_eq_ok_iff fractionCheck_eq_ok_iff, forM_eq_ok_iff timeoutCheck_eq_ok_iff,
    checkNodes_eq_ok_iff_distinct, checkNodes_eq_error_iff_collision, List.isEmpty_eq_false_iff,
    List.isEmpty_iff, policy?_isNone_eq_false_iff, policy?_isNone_iff]
  constructor
  · rintro (⟨hnil, rfl⟩ | ⟨hnonempty, ⟨before, n, after, hnodes, hbefore, he⟩ | ⟨hdistinct,
      ⟨field, value, hfirst, rfl⟩ | ⟨hthresholds, ⟨field, secs, hfirst, rfl⟩ | ⟨htimeouts,
        ⟨hquorum, rfl⟩ | ⟨hquorum, part, t, f, hfirst, hdistrust, rfl⟩⟩⟩⟩⟩)
    · exact .noNodes hnil
    · exact .node hnodes hbefore he
    · exact .threshold hnonempty hdistinct hfirst
    · exact .timeout hnonempty hdistinct hthresholds hfirst
    · exact .quorum hnonempty hdistinct hthresholds htimeouts hquorum
    · exact .tls hnonempty hdistinct hthresholds htimeouts hquorum hfirst hdistrust
  · intro h
    cases h with
    | noNodes hnil => exact .inl ⟨hnil, rfl⟩
    | @node before after n _ hnodes hbefore he =>
      refine .inr ⟨?_, .inl ⟨before, n, after, hnodes, hbefore, he⟩⟩
      simp [hnodes]
    | @threshold field value hnonempty hdistinct hfirst =>
      exact .inr ⟨hnonempty, .inr ⟨hdistinct, .inl ⟨field, value, hfirst, rfl⟩⟩⟩
    | @timeout field secs hnonempty hdistinct hthresholds hfirst =>
      exact .inr ⟨hnonempty, .inr ⟨hdistinct, .inr ⟨hthresholds, .inl ⟨field, secs, hfirst, rfl⟩⟩⟩⟩
    | quorum hnonempty hdistinct hthresholds htimeouts hquorum =>
      exact .inr ⟨hnonempty, .inr ⟨hdistinct, .inr ⟨hthresholds, .inr ⟨htimeouts,
        .inl ⟨hquorum, rfl⟩⟩⟩⟩⟩
    | @tls part t f hnonempty hdistinct hthresholds htimeouts hquorum hfirst hdistrust =>
      exact .inr ⟨hnonempty, .inr ⟨hdistinct, .inr ⟨hthresholds, .inr ⟨htimeouts,
        .inr ⟨hquorum, part, t, f, hfirst, hdistrust, rfl⟩⟩⟩⟩⟩

/-- Nothing is refused after the checks have passed: a well-formed configuration describes a
quorum. -/
theorem checked_eq_error_iff_firstFault (c : ClusterConfig) (e : ConfigFault) :
    c.checked = .error e ↔ c.FirstFault e := by
  rw [← validate_eq_error_iff_firstFault, ClusterConfig.checked, bind_eq_error_iff]
  constructor
  · rintro (h | ⟨hok, h⟩)
    · exact h
    · have hquorum := ((validate_eq_ok_iff_wellFormed c).mp hok).quorum
      rw [← policy?_isNone_eq_false_iff] at hquorum
      unfold QuorumSettings.quorum? at h
      cases hpolicy : c.quorum.policy? with
      | none =>
        rw [hpolicy] at hquorum
        cases hquorum
      | some p =>
        rw [hpolicy] at h
        cases h
  · exact .inl

/-- **Validation accepts exactly the well-formed configurations** and reports the first fault of any
other, and nothing else keeps a configuration from being used. Nodes are compared by their addresses
as pairs of a host and a port, though in the form of a text; what is no number is no fraction. -/
theorem ClusterConfig.accepted_iff_wellFormed (c : ClusterConfig) :
    (c.validate = .ok () ↔ c.WellFormed) ∧
    (∀ e, c.validate = .error e ↔ c.FirstFault e) ∧
    (∀ e, c.checked = .error e ↔ c.FirstFault e) ∧
    (∀ (d d' : DatabaseSettings) (m n : Node),
      d.endpoint m = d'.endpoint n ↔ d.address m = d'.address n) ∧
    ∀ x : Float, x.isNaN → ¬ IsFraction x :=
  ⟨validate_eq_ok_iff_wellFormed c, validate_eq_error_iff_firstFault c,
    checked_eq_error_iff_firstFault c, fun _ _ _ _ => endpoint_eq_iff,
    fun _ => not_isFraction_of_isNaN⟩

end GaleraHealth
