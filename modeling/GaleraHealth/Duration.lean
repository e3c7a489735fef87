import GaleraHealth.Decimal.Binary

/-!
# Durations

Spans of time in nanoseconds, at most `2^64` seconds. In messages a span is written in the largest
of four units that has a whole part, with as many places as it takes.
-/

namespace GaleraHealth

/-- A span of time. -/
structure Duration where
  nanos : Nat
  deriving DecidableEq, Repr, Inhabited

namespace Duration

def longest : Duration := ⟨18446744073709551615999999999⟩

def ofSeconds (s : UInt64) : Duration := ⟨s.toNat * 1000000000⟩

def ofMillis (ms : Nat) : Duration := ⟨ms * 1000000⟩

/-- The sum of two spans, or the longest span if there is none so long. -/
def add (a b : Duration) : Duration := ⟨min (a.nanos + b.nanos) longest.nanos⟩

/-- A whole number of a unit and the rest in nanoseconds, with no zeros at the end. -/
def inUnit (size nanos : Nat) (unit : String) : String :=
  let digits := (Nat.toDigits 10 size).length - 1
  let rest := Nat.toDigits 10 (nanos % size)
  let places := (List.replicate (digits - rest.length) '0' ++ rest).reverse.dropWhile (· == '0')
  Decimal.natText (nanos / size) ++
    (if nanos % size = 0 then "" else "." ++ String.ofList places.reverse) ++ unit

def text (d : Duration) : String :=
  if 1000000000 ≤ d.nanos then inUnit 1000000000 d.nanos "s"
  else if 1000000 ≤ d.nanos then inUnit 1000000 d.nanos "ms"
  else if 1000 ≤ d.nanos then inUnit 1000 d.nanos "µs"
  else inUnit 1 d.nanos "ns"

end Duration

end GaleraHealth
