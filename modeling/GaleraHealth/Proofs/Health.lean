import GaleraHealth.Cluster.Verdict

/-!
# Health in plain numbers

`Quorum.isHealthy` counts in machine words: the sizes that nodes report have 32 bits, the number of
configured nodes has 64. `Quorum.Healthy` says the same with natural numbers, so that nothing can
wrap around in it. The two agree for every status and for every list of nodes
(`isHealthy_nodeCount`): the double of a 32-bit word fits into 64 bits, and a list too long for the
word is counted as the largest word, which no policy tells from the true length.
-/

namespace GaleraHealth

/-- Whether the view that a status describes is large enough for so many configured nodes. -/
def Policy.Suffices (p : Policy) (s : NodeStatus) (configured : Nat) : Prop :=
  match p with
  | .primaryComponent => s.isPrimary = true ∧ (configured ≤ 1 ∨ 1 < s.clusterSize.toNat)
  | .majority => configured < 2 * s.clusterSize.toNat
  | .minClusterSize least => least.toNat ≤ s.clusterSize.toNat

/-- A node with this status can serve in a cluster of so many configured nodes. -/
structure Quorum.Healthy (q : Quorum) (s : NodeStatus) (configured : Nat) : Prop where
  synced : s.syncState = .synced
  writable : q.requireWritable = true → s.readOnly = false
  admitted : q.policy.Suffices s configured

/-- The majority test is exact: it compares the numbers that the two words stand for. -/
theorem isMajority_iff (size : UInt32) (count : UInt64) :
    isMajority size count = true ↔ count.toNat < 2 * size.toNat := by
  have hs := size.toNat_lt
  rw [isMajority, decide_eq_true_eq, UInt64.lt_iff_toNat_lt, UInt64.toNat_mul,
    UInt32.toNat_toUInt64, show (2 : UInt64).toNat = 2 from rfl,
    Nat.mod_eq_of_lt (by omega), Nat.mul_comm]

theorem nodeCount_toNat {α : Type} (xs : List α) :
    (Verdict.nodeCount xs).toNat = min xs.length 0xFFFFFFFFFFFFFFFF := by
  unfold Verdict.nodeCount
  split
  · rw [UInt64.toNat_ofNat_of_lt' (by simp [UInt64.size]; omega)]
    omega
  · rw [show (0xFFFFFFFFFFFFFFFF : UInt64).toNat = 0xFFFFFFFFFFFFFFFF from rfl]
    omega

theorem admits_nodeCount {α : Type} (p : Policy) (s : NodeStatus) (xs : List α) :
    p.admits s (Verdict.nodeCount xs) = true ↔ p.Suffices s xs.length := by
  have hn := nodeCount_toNat xs
  have hs := s.clusterSize.toNat_lt
  cases p with
  | primaryComponent =>
    simp only [Policy.admits, Policy.Suffices, Bool.and_eq_true, Bool.or_eq_true,
      decide_eq_true_eq, UInt64.le_iff_toNat_le, UInt32.lt_iff_toNat_lt, hn]
    rw [show (1 : UInt64).toNat = 1 from rfl, show (1 : UInt32).toNat = 1 from rfl]
    have hle : min xs.length 0xFFFFFFFFFFFFFFFF ≤ 1 ↔ xs.length ≤ 1 := by omega
    rw [hle]
  | majority =>
    simp only [Policy.admits, Policy.Suffices, isMajority_iff, hn]
    omega
  | minClusterSize least =>
    simp only [Policy.admits, Policy.Suffices, decide_eq_true_eq, UInt32.le_iff_toNat_le]

/-- **Health by words is health by numbers**, for the length of any list of nodes. -/
theorem isHealthy_nodeCount {α : Type} (q : Quorum) (s : NodeStatus) (xs : List α) :
    q.isHealthy s (Verdict.nodeCount xs) = true ↔ q.Healthy s xs.length := by
  simp only [Quorum.isHealthy, Bool.and_eq_true, beq_iff_eq, Bool.not_eq_true',
    Bool.and_eq_false_imp, admits_nodeCount]
  constructor
  · rintro ⟨⟨hsync, hwrite⟩, hadmit⟩
    exact ⟨hsync, hwrite, hadmit⟩
  · intro h
    exact ⟨⟨h.synced, h.writable⟩, h.admitted⟩

end GaleraHealth
