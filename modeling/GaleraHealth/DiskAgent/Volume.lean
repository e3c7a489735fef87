import GaleraHealth.Cluster.Disk

/-!
# Counters of a filesystem

A filesystem counts its blocks and files. The agent reports bytes, which are blocks times their
size; a product beyond 64 bits is reported as the largest word. Total and free count are multiplied
by the same size, so a free count that is no larger stays no larger.
-/

namespace GaleraHealth

/-- The counters of a filesystem. -/
structure Volume where
  blocks : UInt64
  freeBlocks : UInt64
  blockSize : UInt64
  files : UInt64
  freeFiles : UInt64
  deriving DecidableEq, Repr

def largestWord : UInt64 := 0xFFFFFFFFFFFFFFFF

/-- A product, or the largest word if the product is larger. -/
def saturatingMul (a b : UInt64) : UInt64 :=
  if a.toNat * b.toNat ≤ largestWord.toNat then a * b else largestWord

theorem largestWord_toNat : largestWord.toNat = 0xFFFFFFFFFFFFFFFF := rfl

theorem saturatingMul_toNat (a b : UInt64) :
    (saturatingMul a b).toNat = min (a.toNat * b.toNat) largestWord.toNat := by
  unfold saturatingMul
  split
  · rename_i h
    rw [UInt64.toNat_mul, Nat.mod_eq_of_lt (by rw [largestWord_toNat] at h; omega)]
    omega
  · rename_i h
    omega

/-- The counters that the agent reports. -/
def Volume.usage (v : Volume) : DiskUsage where
  bytesTotal := saturatingMul v.blocks v.blockSize
  bytesFree := saturatingMul v.freeBlocks v.blockSize
  inodesTotal := v.files
  inodesFree := v.freeFiles

end GaleraHealth
