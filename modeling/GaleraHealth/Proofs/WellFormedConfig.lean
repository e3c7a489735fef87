import GaleraHealth.Proofs.AcceptedConfig

/-!
# Well-formed configurations

`ClusterConfig.WellFormed` says what a configuration has to be like, without mention of how it is
checked, and each single check is shown to decide its part of that.

* `endpoint_eq_iff`: the text `host:port` that nodes are compared by tells any two addresses apart,
  since the port behind the last colon has no colon in it.
* `checkNodes_eq_ok_iff_distinct`: the check of the nodes passes exactly when no two share their
  identity or their address.
* `checkFraction_eq`, `checkTimeout_eq`, `policy?_isNone_iff`, `tlsCheck_eq_ok_iff`: the other
  checks.
-/

namespace GaleraHealth

/-! ### Addresses and their text -/

/-- Where a node's database is. -/
def DatabaseSettings.address (d : DatabaseSettings) (n : Node) : String × UInt16 :=
  (n.host, d.portOf n)

theorem natText_inj {m n : Nat} : Decimal.natText m = Decimal.natText n ↔ m = n := by
  constructor
  · intro h
    have hdigits : Nat.toDigits 10 m = Nat.toDigits 10 n := String.ofList_injective h
    rw [← @Nat.ofDigitChars_ten_toDigits m, hdigits, Nat.ofDigitChars_ten_toDigits]
  · rintro rfl
    rfl

theorem colon_notMem_natText (n : Nat) : ':' ∉ (Decimal.natText n).toList :=
  Decimal.notMem_natText (by decide) n

/-- The last separator splits a list in one way only. -/
theorem append_cons_inj_of_notMem_right {α : Type} {xs ys us vs : List α} {sep : α}
    (hus : sep ∉ us) (hvs : sep ∉ vs) :
    xs ++ sep :: us = ys ++ sep :: vs ↔ xs = ys ∧ us = vs := by
  constructor
  · intro h
    rw [List.append_eq_append_iff] at h
    rcases h with ⟨as, rfl, h⟩ | ⟨as, rfl, h⟩
    · cases as with
      | nil => exact ⟨by simp, (List.cons.inj h).2⟩
      | cons a as =>
        rw [(List.cons.inj h).2] at hus
        simp at hus
    · cases as with
      | nil => exact ⟨by simp, (List.cons.inj h).2.symm⟩
      | cons a as =>
        rw [(List.cons.inj h).2] at hvs
        simp at hvs
  · rintro ⟨rfl, rfl⟩
    rfl

/-- **The text of an address is unambiguous**, whatever colons the host has. -/
theorem endpoint_eq_iff {d d' : DatabaseSettings} {m n : Node} :
    d.endpoint m = d'.endpoint n ↔ d.address m = d'.address n := by
  have hcolon : (":" : String).toList = [':'] := rfl
  rw [DatabaseSettings.endpoint, DatabaseSettings.endpoint, ← String.toList_inj]
  simp only [String.toList_append, hcolon, List.append_assoc, List.singleton_append]
  rw [append_cons_inj_of_notMem_right (colon_notMem_natText _) (colon_notMem_natText _),
    String.toList_inj, String.toList_inj, natText_inj, UInt16.toNat_inj,
    DatabaseSettings.address, DatabaseSettings.address, Prod.mk.injEq]

/-! ### Well-formed configurations -/

/-- No two nodes share their identity or their address. -/
structure DatabaseSettings.Distinct (d : DatabaseSettings) (nodes : List Node) : Prop where
  identities : (nodes.map Node.identity).Nodup
  addresses : (nodes.map d.address).Nodup

/-- A number from zero to one. -/
def IsFraction (x : Float) : Prop := 0.0 ≤ x ∧ x ≤ 1.0

instance (x : Float) : Decidable (IsFraction x) := inferInstanceAs (Decidable (_ ∧ _))

/-- What is no number is not at least zero. -/
theorem not_isFraction_of_isNaN {x : Float} (h : x.isNaN) : ¬ IsFraction x := by
  rintro ⟨hlow, -⟩
  replace h : x.toModel.unpack.isNaN = true := h
  replace hlow : (Float.toModel 0.0).unpack.le x.toModel.unpack = true := of_decide_eq_true hlow
  cases hx : x.toModel.unpack with
  | notANumber =>
    rw [hx] at hlow
    cases hlow
  | _ =>
    rw [hx] at h
    cases h

/-- A number of seconds from one second to a day. -/
def IsTimeout (secs : UInt64) : Prop := 1 ≤ secs.toNat ∧ secs.toNat ≤ 86400

instance (secs : UInt64) : Decidable (IsTimeout secs) := inferInstanceAs (Decidable (_ ∧ _))

/-- The policy that asks for a size has one of at least one. -/
def QuorumSettings.IsComplete (q : QuorumSettings) : Prop :=
  q.policy = .minClusterSize → ∃ n, q.minClusterSize = some n ∧ 1 ≤ n.toNat

/-- Where TLS is enabled, the trusted text is free of faults and holds a certificate. -/
def TlsSettings.IsTrusting (t : TlsSettings) : Prop :=
  t.enabled → ∃ certificate rest, Pem.certificates t.ca = .ok (certificate :: rest)

/-- The thresholds under the names of their fields, in the order in which they are checked. -/
def Thresholds.fields (t : Thresholds) : List (String × Float) :=
  [("disk_used_warning_fraction", t.bytes), ("disk_inodes_used_warning_fraction", t.inodes)]

/-- The timeouts under the names of their fields, in the order in which they are checked. -/
def Timeouts.fields (t : Timeouts) : List (String × UInt64) :=
  [("connect_secs", t.connectSecs), ("query_secs", t.querySecs), ("agent_secs", t.agentSecs),
    ("disk_agent_secs", t.diskAgentSecs), ("run_secs", t.runSecs)]

/-- The TLS settings of the agents there are, under the names of their sections, in the order in
which they are checked. -/
def ClusterConfig.tlsSections (c : ClusterConfig) : List (String × TlsSettings) :=
  (c.database.agent.map fun a => ("mysql.agent", a.tls)).toList ++
    (c.galeraAgent.map fun a => ("galera_agent", a.tls)).toList

/-- What a configuration has to be like. -/
structure ClusterConfig.WellFormed (c : ClusterConfig) : Prop where
  nonempty : c.nodes ≠ []
  distinct : c.database.Distinct c.nodes
  thresholds : ∀ f ∈ c.database.thresholds.fields, IsFraction f.2
  timeouts : ∀ f ∈ c.timeouts.fields, IsTimeout f.2
  quorum : c.quorum.IsComplete
  tls : ∀ s ∈ c.tlsSections, s.2.IsTrusting

/-! ### The single checks -/

theorem checkFraction_eq (field : String) (x : Float) :
    checkFraction field x = if IsFraction x then .ok () else .error (.invalidThreshold field x) := by
  have htest : (decide (0.0 ≤ x) && decide (x ≤ 1.0)) = true ↔ IsFraction x := by simp [IsFraction]
  unfold checkFraction
  by_cases h : IsFraction x
  · rw [if_pos h, if_pos (htest.mpr h)]
  · rw [if_neg h, if_neg fun hbad => h (htest.mp hbad)]

theorem not_isTimeout_iff {secs : UInt64} :
    ¬ IsTimeout secs ↔ secs = 0 ∨ maxTimeoutSecs < secs := by
  rw [IsTimeout, maxTimeoutSecs, UInt64.lt_iff_toNat_lt, ← UInt64.toNat_inj]
  have hzero : (0 : UInt64).toNat = 0 := rfl
  have hday : (86400 : UInt64).toNat = 86400 := rfl
  omega

theorem checkTimeout_eq (field : String) (secs : UInt64) :
    checkTimeout field secs = if IsTimeout secs then .ok () else .error (.invalidTimeout field) := by
  unfold checkTimeout
  by_cases h : IsTimeout secs
  · rw [if_pos h, if_neg fun hbad => not_isTimeout_iff.mpr hbad h]
  · rw [if_neg h, if_pos (not_isTimeout_iff.mp h)]

theorem policy?_isNone_iff {q : QuorumSettings} : q.policy?.isNone = true ↔ ¬ q.IsComplete := by
  obtain ⟨policy, size, _⟩ := q
  cases policy with
  | primaryComponent => simp [QuorumSettings.policy?, QuorumSettings.IsComplete]
  | majority => simp [QuorumSettings.policy?, QuorumSettings.IsComplete]
  | minClusterSize =>
    cases size with
    | none => simp [QuorumSettings.policy?, QuorumSettings.IsComplete]
    | some n =>
      simp [QuorumSettings.policy?, QuorumSettings.IsComplete, UInt32.le_iff_toNat_le]

theorem policy?_isNone_eq_false_iff {q : QuorumSettings} :
    q.policy?.isNone = false ↔ q.IsComplete := by
  rw [← Bool.not_eq_true, policy?_isNone_iff, Classical.not_not]

theorem tlsCheck_eq_ok_iff {t : TlsSettings} : t.check = .ok () ↔ t.IsTrusting := by
  unfold TlsSettings.check TlsSettings.IsTrusting
  cases t.enabled with
  | false => simp
  | true =>
    cases Pem.certificates t.ca with
    | error f => simp
    | ok certificates => cases certificates <;> simp

/-! ### Distinct nodes by their texts -/

/-- The address of a node is among others exactly when its text is among theirs. -/
theorem endpoint_mem_iff (d : DatabaseSettings) (n : Node) (nodes : List Node) :
    d.endpoint n ∈ nodes.map d.endpoint ↔ d.address n ∈ nodes.map d.address := by
  simp only [List.mem_map, endpoint_eq_iff]

/-- Nodes with distinct texts are nodes with distinct addresses. -/
theorem distinct_iff_fresh {d : DatabaseSettings} {nodes : List Node} :
    d.Distinct nodes ↔ Fresh Node.identity [] nodes ∧ Fresh d.endpoint [] nodes := by
  have htexts : (nodes.map d.endpoint).Nodup ↔ (nodes.map d.address).Nodup := by
    rw [List.Nodup, List.Nodup, List.pairwise_map, List.pairwise_map]
    simp only [ne_eq, endpoint_eq_iff]
  rw [Fresh, Fresh, htexts]
  constructor
  · rintro ⟨hidentities, haddresses⟩
    exact ⟨⟨hidentities, fun _ _ => List.not_mem_nil⟩, haddresses, fun _ _ => List.not_mem_nil⟩
  · rintro ⟨⟨hidentities, -⟩, haddresses, -⟩
    exact ⟨hidentities, haddresses⟩

theorem checkNodes_eq_ok_iff_distinct (d : DatabaseSettings) (nodes : List Node) :
    d.checkNodes [] [] nodes = .ok () ↔ d.Distinct nodes := by
  rw [checkNodes_eq_ok_iff, distinct_iff_fresh]

end GaleraHealth
