/-!
# Reading numbers

Whole numbers are read digit by digit over an alphabet of up to sixteen digits; decimals with a
fraction and an exponent become the nearest double. The exponent is clamped first, where the
result is zero or infinite anyhow, so that no huge power is ever computed.
-/

namespace GaleraHealth.Decimal

/-- The value of a digit in a base up to sixteen, letters of either case. -/
def digitValue? (base : Nat) (c : Char) : Option Nat :=
  let v :=
    if '0' ≤ c ∧ c ≤ '9' then some (c.toNat - 48)
    else if 'a' ≤ c ∧ c ≤ 'f' then some (c.toNat - 87)
    else if 'A' ≤ c ∧ c ≤ 'F' then some (c.toNat - 55)
    else none
  v.filter (· < base)

/-- The value of a nonempty row of digits. -/
def naturalInBase? (base : Nat) : List Char → Option Nat
  | [] => none
  | cs => cs.foldl (fun acc c => acc.bind fun n => (digitValue? base c).map (n * base + ·)) (some 0)

/-- A nonempty row of decimal digits. -/
def natural? (cs : List Char) : Option Nat := naturalInBase? 10 cs

/-- A natural number up to a bound, after an optional plus sign. -/
def unsignedUpTo? (high : Nat) (cs : List Char) : Option Nat :=
  let digits := match cs with
    | '+' :: rest => rest
    | _ => cs
  (natural? digits).filter (· ≤ high)

/-- An integer between two bounds, after an optional sign. -/
def signedIn? (low high : Int) (cs : List Char) : Option Int :=
  let n := match cs with
    | '+' :: rest => (natural? rest).map Int.ofNat
    | '-' :: rest => (natural? rest).map fun n => -Int.ofNat n
    | _ => (natural? cs).map Int.ofNat
  n.filter fun n => low ≤ n ∧ n ≤ high

/-- The double nearest to `±digits · 10^exponent`. -/
def nearestFloat (negative : Bool) (digits : Nat) (exponent : Int) : Float :=
  let lead := exponent + Int.ofNat (Nat.toDigits 10 digits).length
  let x : Float :=
    if digits = 0 ∨ lead < -400 then 0.0
    else if 400 < lead then 1.0 / 0.0
    else if 0 ≤ exponent then Float.ofScientific (digits * Nat.pow 10 exponent.toNat) false 0
    else Float.ofScientific digits true (-exponent).toNat
  if negative then -x else x

/-- Digits, a fraction and an exponent, joined to a double. `fraction` holds the digits after the
point. -/
def floatOfParts (negative : Bool) (whole fraction : List Char) (exponent : Int) : Float :=
  nearestFloat negative ((natural? (whole ++ fraction)).getD 0)
    (exponent - Int.ofNat fraction.length)

end GaleraHealth.Decimal
