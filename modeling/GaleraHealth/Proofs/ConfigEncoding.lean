import GaleraHealth.Config.Loading
import GaleraHealth.Proofs.SnapshotEncoding
import GaleraHealth.Proofs.WellFormedConfig

/-!
# A configuration survives being written and read again

A configuration is read from any form of document, with its defaults filled in, and checked. What is
written of it is JSON, in which nothing is left to a default: a missing section is `null`, and only
the port of a node is left out when it has none of its own. Each part has its `faithful` law, from
the settings of TLS up to `ClusterConfig.faithful`, so a reader that refused `null` where a writer
puts it, or that knew a field by another name, would show.

What JSON cannot hold is a threshold that is not finite. An accepted configuration has none, since
its thresholds lie between zero and one (`isFinite_of_isFraction`).
-/

namespace GaleraHealth

open Json

/-! ### Agents and the canary -/

theorem TlsSettings.faithful :
    FaithfulOn (fun _ => True) TlsSettings.toJson (TlsSettings.read? form) where
  readBack t _ := by
    have hserver : form.optional? string? (.ofOption .string t.serverName) = some t.serverName :=
      optional?_ofOption (fun s _ => string?_string s) fun _ _ => rfl
    simp [TlsSettings.read?, TlsSettings.toJson, record?_object, hserver]
  distinctKeys t := by simp [TlsSettings.toJson]
  orderFree := by
    refine OrderFree.record fun fs gs h => ?_
    simp only [form_bool?, form_string?, h.defaulted orderFree_bool?,
      h.defaulted orderFree_string?, h.omittable orderFree_string?]

/-- Agents of every kind, if their port is not called like another of their fields. -/
theorem AgentSettings.faithful {portName : String}
    (hport : ∀ other ∈ ["username", "password", "tls"], portName ≠ other) :
    FaithfulOn (fun _ => True) (AgentSettings.toJson portName)
      (AgentSettings.read? form portName) where
  readBack a _ := by
    simp only [List.forall_mem_cons] at hport
    obtain ⟨huser, hpassword, htls, -⟩ := hport
    have hsettings := TlsSettings.faithful.readBack a.tls trivial
    simp [AgentSettings.read?, AgentSettings.toJson, record?_object, huser, huser.symm, hpassword,
      hpassword.symm, htls, htls.symm, hsettings]
  distinctKeys a := by
    simp only [List.forall_mem_cons] at hport
    obtain ⟨huser, hpassword, htls, -⟩ := hport
    simp [AgentSettings.toJson, TlsSettings.faithful.distinctKeys, huser.symm, hpassword.symm, htls]
  orderFree := by
    refine OrderFree.record fun fs gs h => ?_
    simp only [form_string?, h.required orderFree_string?, h.required orderFree_word16?,
      h.defaulted TlsSettings.faithful.orderFree]

theorem AgentSettings.faithful_disk :
    FaithfulOn (fun _ => True) (AgentSettings.toJson "port") (AgentSettings.read? form "port") :=
  AgentSettings.faithful (by decide)

theorem AgentSettings.faithful_galera :
    FaithfulOn (fun _ => True) (AgentSettings.toJson "api_port")
      (AgentSettings.read? form "api_port") :=
  AgentSettings.faithful (by decide)

theorem CanarySettings.faithful :
    FaithfulOn (fun _ => True) CanarySettings.toJson (CanarySettings.read? form) where
  readBack c _ := by simp [CanarySettings.read?, CanarySettings.toJson, record?_object]
  distinctKeys c := by simp [CanarySettings.toJson]
  orderFree := by
    refine OrderFree.record fun fs gs h => ?_
    simp only [form_string?, h.required orderFree_string?, h.required orderFree_word16?,
      h.defaulted orderFree_string?]

/-! ### Limits, quorum, thresholds -/

theorem Timeouts.faithful :
    FaithfulOn (fun _ => True) Timeouts.toJson (Timeouts.read? form) where
  readBack t _ := by simp [Timeouts.read?, Timeouts.toJson, record?_object]
  distinctKeys t := by simp [Timeouts.toJson]
  orderFree := by
    refine OrderFree.record fun fs gs h => ?_
    simp only [h.defaulted orderFree_word64?]

theorem QuorumSettings.faithful :
    FaithfulOn (fun _ => True) QuorumSettings.toJson (QuorumSettings.read? form) where
  readBack q _ := by
    have hsize : form.optional? form.word32? (.ofOption (fun n => .ofNat n.toNat) q.minClusterSize) =
        some q.minClusterSize :=
      optional?_ofOption (fun n _ => word32?_ofNat n) fun _ _ => rfl
    simp [QuorumSettings.read?, QuorumSettings.toJson, record?_object, PolicyName.lookup_name, hsize]
  distinctKeys q := by simp [QuorumSettings.toJson]
  orderFree := by
    refine OrderFree.record fun fs gs h => ?_
    simp only [form_bool?, h.defaulted (orderFree_choice? _), h.omittable orderFree_word32?,
      h.defaulted orderFree_bool?]

/-- A number from zero to one is finite. -/
theorem isFinite_of_isFraction {x : Float} (h : IsFraction x) : x.isFinite = true := by
  obtain ⟨hlow, hhigh⟩ := h
  replace hlow : (Float.toModel 0.0).unpack.le x.toModel.unpack = true := of_decide_eq_true hlow
  replace hhigh : x.toModel.unpack.le (Float.toModel 1.0).unpack = true := of_decide_eq_true hhigh
  show x.toModel.unpack.isFinite = true
  cases hx : x.toModel.unpack with
  | notANumber =>
    rw [hx] at hlow
    cases hlow
  | infinity sign =>
    cases sign with
    | positive =>
      rw [hx] at hhigh
      cases hhigh
    | negative =>
      rw [hx] at hlow
      cases hlow
  | zero => rfl
  | finite => rfl

/-- Both thresholds are numbers that JSON has a value for. -/
def Thresholds.AreFinite (t : Thresholds) : Prop :=
  t.bytes.isFinite ∧ t.inodes.isFinite

theorem Thresholds.faithful :
    FaithfulOn Thresholds.AreFinite Thresholds.toJson (Thresholds.read? form) where
  readBack t ht := by
    have hbytes := float?_ofFloat ht.1
    have hinodes := float?_ofFloat ht.2
    simp [Thresholds.read?, Thresholds.toJson, record?_object, hbytes, hinodes]
  distinctKeys t := by simp [Thresholds.toJson]
  orderFree := by
    refine OrderFree.record fun fs gs h => ?_
    simp only [form_float?, h.defaulted orderFree_float?]

/-! ### The whole configuration -/

theorem DatabaseSettings.faithful :
    FaithfulOn (fun d => d.thresholds.AreFinite) DatabaseSettings.toJson
      (DatabaseSettings.read? form) where
  readBack d hd := by
    have hagent : form.optional? (AgentSettings.read? form "port")
        (.ofOption (AgentSettings.toJson "port") d.agent) = some d.agent :=
      optional?_ofOption (fun a _ => AgentSettings.faithful_disk.readBack a trivial) fun _ _ => rfl
    have hthresholds := Thresholds.faithful.readBack d.thresholds hd
    have hnodes := Node.faithful.list.readBack d.nodes fun _ _ => trivial
    simp [DatabaseSettings.read?, DatabaseSettings.toJson, record?_object, hagent, hthresholds,
      hnodes]
  distinctKeys d := by
    have hnodes := Node.faithful.list.distinctKeys d.nodes
    simp [DatabaseSettings.toJson, AgentSettings.faithful_disk.distinctKeys,
      Thresholds.faithful.distinctKeys, hnodes]
  orderFree := by
    refine OrderFree.record fun fs gs h => ?_
    simp only [form_string?, h.required orderFree_string?, h.defaulted orderFree_word16?,
      h.omittable AgentSettings.faithful_disk.orderFree, h.defaulted Thresholds.faithful.orderFree,
      h.defaulted Node.faithful.orderFree.list]

theorem ClusterConfig.faithful :
    FaithfulOn (fun c => c.database.thresholds.AreFinite) ClusterConfig.toJson
      (ClusterConfig.read? form) where
  readBack c hc := by
    have hdatabase := DatabaseSettings.faithful.readBack c.database hc
    have hgalera : form.optional? (AgentSettings.read? form "api_port")
        (.ofOption (AgentSettings.toJson "api_port") c.galeraAgent) = some c.galeraAgent :=
      optional?_ofOption (fun a _ => AgentSettings.faithful_galera.readBack a trivial)
        fun _ _ => rfl
    have hcanary : form.optional? (CanarySettings.read? form)
        (.ofOption CanarySettings.toJson c.canary) = some c.canary :=
      optional?_ofOption (fun a _ => CanarySettings.faithful.readBack a trivial) fun _ _ => rfl
    have htimeouts := Timeouts.faithful.readBack c.timeouts trivial
    have hquorum := QuorumSettings.faithful.readBack c.quorum trivial
    simp [ClusterConfig.read?, ClusterConfig.toJson, record?_object, hdatabase, hgalera, hcanary,
      htimeouts, hquorum]
  distinctKeys c := by
    simp [ClusterConfig.toJson, DatabaseSettings.faithful.distinctKeys,
      AgentSettings.faithful_galera.distinctKeys, CanarySettings.faithful.distinctKeys,
      Timeouts.faithful.distinctKeys, QuorumSettings.faithful.distinctKeys]
  orderFree := by
    refine OrderFree.record fun fs gs h => ?_
    simp only [h.required DatabaseSettings.faithful.orderFree,
      h.omittable AgentSettings.faithful_galera.orderFree,
      h.omittable CanarySettings.faithful.orderFree, h.defaulted Timeouts.faithful.orderFree,
      h.defaulted QuorumSettings.faithful.orderFree]

/-! ### Accepted configurations -/

/-- The thresholds of an accepted configuration are finite. -/
theorem ClusterConfig.Passes.areFinite {c : ClusterConfig} (h : c.Passes) :
    c.database.thresholds.AreFinite := by
  have hbytes := h.bytes
  have hinodes := h.inodes
  rw [checkFraction_eq, ite_ok_eq_ok_iff] at hbytes hinodes
  exact ⟨isFinite_of_isFraction hbytes, isFinite_of_isFraction hinodes⟩

/-- A configuration that is read from JSON and checked. -/
def CheckedConfig.ofJson (j : Json) : Except LoadFault CheckedConfig :=
  match ClusterConfig.read? form j with
  | none => .error .unreadable
  | some c => c.checked.mapError .refused

/-- A reader that finds the configuration again accepts it again. -/
theorem CheckedConfig.ofJson_of_read {j : Json} {c : ClusterConfig} {k : CheckedConfig}
    (hread : ClusterConfig.read? form j = some c) (hchecked : c.checked = .ok k) :
    CheckedConfig.ofJson j = .ok k := by
  rw [CheckedConfig.ofJson, hread]
  show c.checked.mapError LoadFault.refused = .ok k
  rw [hchecked]
  rfl

/-- What is told of a checked configuration. -/
structure ConfigDescription where
  config : Json
  identities : List String
  policy : Policy
  durations : List Duration

/-- Describes a checked configuration. -/
def CheckedConfig.describe (k : CheckedConfig) : ConfigDescription where
  config := k.config.toJson
  identities := k.config.nodes.map Node.identity
  policy := k.quorum.policy
  durations := k.config.timeouts.durations

/-- **An accepted configuration survives being written and read again.** What is written of it holds
no key twice and is read as the same configuration, in whatever order the keys of its objects stand.
The configuration that is read is accepted with the same quorum; and to describe what a description
holds gives the same description, with the same identities, policy and durations. -/
theorem CheckedConfig.describe_ofJson {c : ClusterConfig} {k : CheckedConfig}
    (h : c.checked = .ok k) :
    k.config = c ∧ c.toJson.DistinctKeys ∧
    ClusterConfig.read? form c.toJson = some c ∧
    (∀ j, Reordered c.toJson j → CheckedConfig.ofJson j = .ok k) ∧
    (CheckedConfig.ofJson k.describe.config).map CheckedConfig.describe = .ok k.describe := by
  obtain ⟨hpasses, rfl, -⟩ := (checked_eq_ok_iff c k).mp h
  have hread := ClusterConfig.faithful.readBack k.config hpasses.areFinite
  refine ⟨rfl, ClusterConfig.faithful.distinctKeys k.config, hread, ?_, ?_⟩
  · intro j hj
    exact ofJson_of_read (ClusterConfig.faithful.read_reordered hpasses.areFinite hj) h
  · show (CheckedConfig.ofJson k.config.toJson).map CheckedConfig.describe = .ok k.describe
    rw [ofJson_of_read hread h]
    rfl

/-- A configuration in which every section that may be missing is there in one place and missing in
another. -/
def mixedConfig : ClusterConfig where
  database :=
    { username := "diag", password := "secret", port := 3306
      agent := none
      thresholds := ⟨0.9, 1.0⟩
      nodes := [⟨"10.0.0.1", "mysql", "a", some 3307⟩, ⟨"10.0.0.1", "mysql-1", "", none⟩] }
  galeraAgent := some ⟨"galera", "secret", 9200, ⟨false, "", some "agent.internal"⟩⟩
  canary := none
  timeouts := ⟨1, 86400, 30, 10, 60⟩
  quorum := ⟨.minClusterSize, some 2, false⟩

theorem describe_mixedConfig :
    let k : CheckedConfig := ⟨mixedConfig, ⟨.minClusterSize 2, false⟩⟩
    mixedConfig.checked = .ok k ∧ ClusterConfig.read? form mixedConfig.toJson = some mixedConfig ∧
      (CheckedConfig.ofJson mixedConfig.toJson).map CheckedConfig.describe = .ok k.describe ∧
      k.describe.identities = ["mysql/a", "mysql-1"] := by
  intro k
  have hchecked : mixedConfig.checked = .ok k := by
    rw [checked_eq_ok_iff]
    exact ⟨⟨rfl, rfl, rfl, rfl, rfl, rfl, rfl, rfl, rfl, rfl, rfl, rfl⟩, rfl, rfl⟩
  obtain ⟨-, -, hread, -, hdescribed⟩ := CheckedConfig.describe_ofJson hchecked
  exact ⟨hchecked, hread, hdescribed, by decide +kernel⟩

end GaleraHealth
