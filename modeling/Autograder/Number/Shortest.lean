import Autograder.Number.Double

/-!
# Shortest digits

The shortest decimal of a double is the one with the fewest digits that reads back as the same
double, and the nearest such one. It is searched on ever finer decimal grids: on each, only the
two neighbours of the exact value can be the answer.
-/

namespace Autograder.Number

/-- The number `coefficient * 10 ^ exponent`. -/
structure Decimal where
  coefficient : Nat
  exponent : Int
deriving DecidableEq

/-- The numbers that read back as one double: `value / unit` is the double itself, and the interval
from `low / unit` to `high / unit` holds its ends if `closed`. -/
structure Interval where
  value : Nat
  low : Nat
  high : Nat
  unit : Nat
  closed : Bool

/-- The interval of the double `mantissa * 2 ^ exponent`. Below a power of two doubles lie twice as
densely, so there the lower end is nearer. -/
def Interval.ofParts (mantissa : Nat) (exponent : Int) : Interval :=
  let scale := Nat.pow 2 exponent.toNat
  let below := if mantissa == Nat.pow 2 52 && -1074 < exponent then 1 else 2
  { value := 4 * mantissa * scale
    low := (4 * mantissa - below) * scale
    high := (4 * mantissa + 2) * scale
    unit := 4 * Nat.pow 2 (-exponent).toNat
    closed := mantissa % 2 == 0 }

/-- The interval in units of `10 ^ place`. -/
def Interval.inUnits (i : Interval) (place : Int) : Interval :=
  let scale := Nat.pow 10 (-place).toNat
  { i with
    value := i.value * scale
    low := i.low * scale
    high := i.high * scale
    unit := i.unit * Nat.pow 10 place.toNat }

def Interval.holds (i : Interval) (n : Nat) : Bool :=
  if i.closed then i.low ≤ n * i.unit && n * i.unit ≤ i.high
  else i.low < n * i.unit && n * i.unit < i.high

/-- The whole number in the interval nearest to the value, an exact tie going to the even one. -/
def Interval.nearest? (i : Interval) : Option Nat :=
  let n := i.value / i.unit
  let remainder := i.value % i.unit
  let preferLower :=
    2 * remainder < i.unit || (2 * remainder == i.unit && n % 2 == 0)
  let lower := n != 0 && i.holds n
  let upper := i.holds (n + 1)
  if lower && (preferLower || !upper) then some n
  else if upper then some (n + 1)
  else none

/-- Searches the grids from `10 ^ place` on, at most `steps` of them. -/
def Interval.search (i : Interval) : Nat → Int → Decimal
  | 0, place => ⟨i.value / i.unit, place⟩
  | steps + 1, place =>
    match (i.inUnits place).nearest? with
    | some n => ⟨n, place⟩
    | none => i.search steps (place - 1)

/-- Moves trailing zeros of the coefficient into the exponent, at most `steps` of them. -/
def Decimal.stripZeros : Nat → Decimal → Decimal
  | 0, d => d
  | steps + 1, d =>
    if d.coefficient != 0 && d.coefficient % 10 == 0 then
      stripZeros steps ⟨d.coefficient / 10, d.exponent + 1⟩
    else d

/-- A place at which the double `mantissa * 2 ^ exponent` has no digit yet, or its first. -/
def firstPlace (mantissa : Nat) (exponent : Int) : Int :=
  (mantissa.log2 + 1 + exponent) * 30103 / 100000 + 1

/-- The shortest decimal of the double `mantissa * 2 ^ exponent`. Seventeen digits always suffice;
the search starts up to three places early. -/
def shortest (mantissa : Nat) (exponent : Int) : Decimal :=
  if mantissa == 0 then ⟨0, 0⟩
  else
    ((Interval.ofParts mantissa exponent).search 20 (firstPlace mantissa exponent)).stripZeros 20

end Autograder.Number
