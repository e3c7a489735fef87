import GaleraHealth.Config.Validation
import GaleraHealth.Proofs.FallibleSteps

/-!
# What an accepted configuration guarantees

`ClusterConfig.validate` runs a row of checks and stops at the first that fails. Here the checks
that an accepted configuration has passed are read back from that.

* `checkNodes_eq_ok_iff`: the check of the nodes, which remembers what it has seen, passes exactly
  when no two nodes share their identity and no two share their database.
* `validate_eq_ok_iff`, `checked_eq_ok_iff`: an accepted configuration has passed every check, and
  comes with the quorum that it describes.
* `filter_key_eq_singleton`: among members with distinct keys, a key belongs to one member only.
-/

namespace GaleraHealth

/-! ### Distinct nodes -/

/-- The keys of some members are distinct, and none of them has been seen before. -/
def Fresh {α κ : Type} (key : α → κ) (seen : List κ) (xs : List α) : Prop :=
  (xs.map key).Nodup ∧ ∀ x ∈ xs, key x ∉ seen

theorem fresh_nil {α κ : Type} (key : α → κ) (seen : List κ) : Fresh key seen [] :=
  ⟨List.nodup_nil, fun _ h => absurd h List.not_mem_nil⟩

/-- The first member is new, and the others are once its key has been seen. -/
theorem fresh_cons {α κ : Type} {key : α → κ} {seen : List κ} {x : α} {xs : List α} :
    Fresh key seen (x :: xs) ↔ key x ∉ seen ∧ Fresh key (key x :: seen) xs := by
  rw [Fresh, Fresh, List.map_cons, List.nodup_cons, List.forall_mem_cons]
  constructor
  · rintro ⟨⟨hnot, hnodup⟩, hx, hxs⟩
    refine ⟨hx, hnodup, fun y hy => ?_⟩
    rw [List.mem_cons, not_or]
    refine ⟨?_, hxs y hy⟩
    intro heq
    rw [← heq] at hnot
    exact hnot (List.mem_map_of_mem hy)
  · rintro ⟨hx, hnodup, hxs⟩
    have hnew : ∀ y ∈ xs, key y ≠ key x ∧ key y ∉ seen := by
      intro y hy
      have hy' := hxs y hy
      rwa [List.mem_cons, not_or] at hy'
    refine ⟨⟨?_, hnodup⟩, hx, fun y hy => (hnew y hy).2⟩
    intro hmem
    obtain ⟨y, hy, heq⟩ := List.mem_map.mp hmem
    exact (hnew y hy).1 heq

/-- **The check of the nodes** passes exactly when identities and databases are distinct and new. -/
theorem checkNodes_eq_ok_iff (d : DatabaseSettings) (identities endpoints : List String)
    (nodes : List Node) : d.checkNodes identities endpoints nodes = .ok () ↔
      Fresh Node.identity identities nodes ∧ Fresh d.endpoint endpoints nodes := by
  induction nodes generalizing identities endpoints with
  | nil =>
    rw [DatabaseSettings.checkNodes]
    exact ⟨fun _ => ⟨fresh_nil _ _, fresh_nil _ _⟩, fun _ => rfl⟩
  | cons n rest ih =>
    rw [DatabaseSettings.checkNodes, fresh_cons, fresh_cons]
    by_cases hidentity : n.identity ∈ identities
    · rw [if_pos hidentity]
      constructor
      · intro h
        cases h
      · rintro ⟨⟨hnew, -⟩, -⟩
        exact absurd hidentity hnew
    · rw [if_neg hidentity]
      by_cases hendpoint : d.endpoint n ∈ endpoints
      · rw [if_pos hendpoint]
        constructor
        · intro h
          cases h
        · rintro ⟨-, hnew, -⟩
          exact absurd hendpoint hnew
      · rw [if_neg hendpoint, ih]
        constructor
        · rintro ⟨hids, heps⟩
          exact ⟨⟨hidentity, hids⟩, hendpoint, heps⟩
        · rintro ⟨⟨-, hids⟩, -, heps⟩
          exact ⟨hids, heps⟩

/-- A key that one of several members with distinct keys has picks out that member alone. -/
theorem filter_key_eq_singleton {α κ : Type} [DecidableEq κ] {key : α → κ} {xs : List α}
    (h : (xs.map key).Nodup) {x : α} (hx : x ∈ xs) :
    xs.filter (fun y => key y = key x) = [x] := by
  induction xs with
  | nil => cases hx
  | cons y ys ih =>
    rw [List.map_cons, List.nodup_cons] at h
    obtain ⟨hy, hys⟩ := h
    rcases List.mem_cons.mp hx with rfl | hmem
    · have hnone : ys.filter (fun z => key z = key x) = [] := by
        rw [List.filter_eq_nil_iff]
        intro z hz hzx
        rw [← of_decide_eq_true hzx] at hy
        exact hy (List.mem_map_of_mem hz)
      rw [List.filter_cons_of_pos (by simp), hnone]
    · have hne : key y ≠ key x := by
        intro heq
        rw [heq] at hy
        exact hy (List.mem_map_of_mem hmem)
      rw [List.filter_cons_of_neg (by simpa using hne), ih hys hmem]

/-! ### The whole check -/

/-- Every check of a configuration passes. -/
structure ClusterConfig.Passes (c : ClusterConfig) : Prop where
  nonempty : c.nodes.isEmpty = false
  nodes : c.database.checkNodes [] [] c.nodes = .ok ()
  bytes : checkFraction "disk_used_warning_fraction" c.database.thresholds.bytes = .ok ()
  inodes : checkFraction "disk_inodes_used_warning_fraction" c.database.thresholds.inodes = .ok ()
  connect : checkTimeout "connect_secs" c.timeouts.connectSecs = .ok ()
  query : checkTimeout "query_secs" c.timeouts.querySecs = .ok ()
  agent : checkTimeout "agent_secs" c.timeouts.agentSecs = .ok ()
  diskAgent : checkTimeout "disk_agent_secs" c.timeouts.diskAgentSecs = .ok ()
  run : checkTimeout "run_secs" c.timeouts.runSecs = .ok ()
  policy : c.quorum.policy?.isNone = false
  diskTls : checkAgent "mysql.agent" c.database.agent = .ok ()
  galeraTls : checkAgent "galera_agent" c.galeraAgent = .ok ()

theorem validate_eq_ok_iff (c : ClusterConfig) : c.validate = .ok () ↔ c.Passes := by
  simp only [ClusterConfig.validate, throw_guard_eq_ok_iff, bind_eq_ok_iff]
  constructor
  · rintro ⟨h₁, h₂, h₃, h₄, h₅, h₆, h₇, h₈, h₉, h₁₀, h₁₁, h₁₂⟩
    exact ⟨h₁, h₂, h₃, h₄, h₅, h₆, h₇, h₈, h₉, h₁₀, h₁₁, h₁₂⟩
  · rintro ⟨h₁, h₂, h₃, h₄, h₅, h₆, h₇, h₈, h₉, h₁₀, h₁₁, h₁₂⟩
    exact ⟨h₁, h₂, h₃, h₄, h₅, h₆, h₇, h₈, h₉, h₁₀, h₁₁, h₁₂⟩

/-- An accepted configuration has passed every check and comes with the quorum it describes. -/
theorem checked_eq_ok_iff (c : ClusterConfig) (checked : CheckedConfig) :
    c.checked = .ok checked ↔
      c.Passes ∧ checked.config = c ∧ c.quorum.quorum? = some checked.quorum := by
  rw [ClusterConfig.checked, bind_eq_ok_iff, validate_eq_ok_iff]
  obtain ⟨config, quorum⟩ := checked
  cases hquorum : c.quorum.quorum? with
  | none =>
    constructor
    · rintro ⟨-, h⟩
      cases h
    · rintro ⟨-, -, h⟩
      cases h
  | some q =>
    constructor
    · rintro ⟨hpasses, h⟩
      cases h
      exact ⟨hpasses, rfl, rfl⟩
    · rintro ⟨hpasses, rfl, h⟩
      cases h
      exact ⟨hpasses, rfl⟩

namespace ClusterConfig.Passes

variable {c : ClusterConfig}

/-- No two nodes share their identity. -/
theorem nodup_identities (h : c.Passes) : (c.nodes.map Node.identity).Nodup :=
  ((checkNodes_eq_ok_iff c.database [] [] c.nodes).mp h.nodes).1.1

end ClusterConfig.Passes

end GaleraHealth
