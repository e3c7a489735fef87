import GaleraHealth.Cluster.Disk
import GaleraHealth.Cluster.DiskRisk
import GaleraHealth.Decimal.Fixed

/-!
# Amounts in a summary

Byte counts are written with a unit and one place, shares as percentages.
-/

namespace GaleraHealth.Summary

/-- The letters of the units of bytes; a unit is 1024 times the one before it. -/
def unitLetters : List String := ["B", "K", "M", "G", "T"]

/-- The largest unit up to `most` that is no more than a count of bytes. -/
def unitOf (bytes : Nat) : Nat → Nat
  | 0 => 0
  | most + 1 => if Nat.pow 1024 (most + 1) ≤ bytes then most + 1 else unitOf bytes most

/-- The text of a count in a unit: bytes are whole, all other amounts have one place. -/
def inUnit (bytes unit : Nat) : String :=
  (if unit = 0 then Decimal.natText bytes else Decimal.fixedQuotient 1 bytes (Nat.pow 1024 unit)) ++
    unitLetters.getD unit ""

/-- A byte count. It is taken as a double, which is exact for all counts that stay bytes. -/
def formatBytes (bytes : UInt64) : String :=
  let n := Decimal.nearestNat bytes.toNat
  inUnit n (unitOf n 4)

/-- The percentage of a total that is in use; nothing is in use where there is no total. -/
def percentUsed (total free : UInt64) : Float :=
  match usedFraction? total free with
  | none => 0.0
  | some x => x * 100.0

/-- A disk: the share of its bytes and of its inodes that is in use. -/
def describeDisk (d : DiskUsage) : String :=
  Decimal.fixed 1 (percentUsed d.bytesTotal d.bytesFree) ++ "% of " ++ formatBytes d.bytesTotal ++
    " (" ++ Decimal.fixed 1 (percentUsed d.inodesTotal d.inodesFree) ++ "% of " ++
    Decimal.fixed 2 (d.inodesTotal.toFloat / 1000000.0) ++ "M inodes)"

end GaleraHealth.Summary
