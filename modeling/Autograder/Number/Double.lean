/-!
# The exact value of a double

A finite double is a sign, a natural mantissa and a power of two. Reading these off its bits lets
rounding and printing be done in whole numbers.
-/

namespace Autograder.Number

/-- What a double stands for; a finite one has the value `± mantissa * 2 ^ exponent`. -/
inductive Value where
  | nan
  | infinite (negative : Bool)
  | finite (negative : Bool) (mantissa : Nat) (exponent : Int)
deriving DecidableEq

/-- Reads sign, exponent and fraction of 64 bits. -/
def Value.ofBits (bits : Nat) : Value :=
  let negative := decide (Nat.pow 2 63 ≤ bits)
  let exponent : Nat := bits / Nat.pow 2 52 % Nat.pow 2 11
  let fraction : Nat := bits % Nat.pow 2 52
  if exponent == 2047 then
    if fraction == 0 then .infinite negative else .nan
  else if exponent == 0 then .finite negative fraction (-1074)
  else .finite negative (Nat.pow 2 52 + fraction) ((exponent : Int) - 1075)

def value (x : Float) : Value :=
  .ofBits x.toBits.toNat

def isFinite (x : Float) : Bool :=
  match value x with
  | .finite .. => true
  | _ => false

end Autograder.Number
