import GaleraHealth.Decimal.Binary

/-!
# A fixed number of decimal places

The exact binary value is rounded once, halves to the even neighbour, and written with all its
digits: there is no exponent form.
-/

namespace GaleraHealth.Decimal

/-- The digits of `n / 10^places`, with exactly `places` digits after the point. -/
def withPlaces (places n : Nat) : String :=
  if places = 0 then natText n
  else
    let tail := Nat.toDigits 10 (n % Nat.pow 10 places)
    natText (n / Nat.pow 10 places) ++ "." ++
      String.ofList (List.replicate (places - tail.length) '0' ++ tail)

/-- A quotient of natural numbers with a fixed number of places. -/
def fixedQuotient (places num den : Nat) : String :=
  withPlaces places (roundHalfEven (num * Nat.pow 10 places) den)

/-- A double with a fixed number of places. -/
def fixed (places : Nat) (x : Float) : String :=
  match Binary.ofFloat x with
  | .nan => "NaN"
  | .infinite negative => if negative then "-inf" else "inf"
  | .finite negative m q =>
    let v := scaled m q
    (if negative then "-" else "") ++ fixedQuotient places v.1 v.2

end GaleraHealth.Decimal
