import Autograder.Number.Double

/-!
# Rounding doubles

Doubles are rounded from their exact value: to the nearest whole number with halves going up, for
scores, and to one decimal place with halves going to the even neighbour, for texts.
-/

namespace Autograder.Number

/-- `numerator / denominator` rounded to the nearest natural, a half upwards. -/
def divHalfUp (numerator denominator : Nat) : Nat :=
  (2 * numerator + denominator) / (2 * denominator)

/-- `numerator / denominator` rounded to the nearest natural, a half to the even neighbour. -/
def divHalfEven (numerator denominator : Nat) : Nat :=
  let quotient := numerator / denominator
  let twice := 2 * (numerator % denominator)
  if denominator < twice || (twice == denominator && quotient % 2 == 1) then quotient + 1
  else quotient

/-- The double rounded to the nearest whole number and clamped to `0 … limit`; halves go away from
zero, and what is not a number counts as zero. -/
def roundClamped (limit : Nat) (x : Float) : Nat :=
  match value x with
  | .nan => 0
  | .infinite negative => if negative then 0 else limit
  | .finite true _ _ => 0
  | .finite false mantissa exponent =>
    min limit (divHalfUp (mantissa * Nat.pow 2 exponent.toNat) (Nat.pow 2 (-exponent).toNat))

/-- The double with exactly one decimal place; zero keeps its sign. -/
def onePlace (x : Float) : String :=
  match value x with
  | .nan => "NaN"
  | .infinite negative => if negative then "-inf" else "inf"
  | .finite negative mantissa exponent =>
    let tenths := divHalfEven (10 * mantissa * Nat.pow 2 exponent.toNat) (Nat.pow 2 (-exponent).toNat)
    let sign := if negative then "-" else ""
    sign ++ toString (tenths / 10) ++ "." ++ toString (tenths % 10)

end Autograder.Number
