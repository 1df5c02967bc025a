import Autograder.Number.Shortest

/-!
# Numbers of the data format

A number of the data format is kept as it is written. Only its use decides whether it is read as a
whole number or as a double.
-/

namespace Autograder

open Autograder.Number

/-- A written number: sign, digits before the point, digits after it, and the exponent with its
sign. No fraction digits means no point. -/
structure Numeral where
  negative : Bool := false
  whole : List Char
  fraction : List Char := []
  exponent : Option (Bool × List Char) := none
deriving DecidableEq

namespace Numeral

def digitValue (c : Char) : Nat :=
  c.toNat - '0'.toNat

/-- The number that the digits write. -/
def valueOf (digits : List Char) : Nat :=
  digits.foldl (fun n c => 10 * n + digitValue c) 0

def digitsOf (n : Nat) : List Char :=
  Nat.toDigits 10 n

/-- The largest whole number that is read as one. -/
def wholeLimit : Nat :=
  Nat.pow 2 64 - 1

def ofNat (n : Nat) : Numeral :=
  { whole := digitsOf n }

/-- The natural number, if the numeral writes one of at most `limit` without sign, point and
exponent. -/
def toNat? (limit : Nat) (n : Numeral) : Option Nat :=
  if n.negative || !n.fraction.isEmpty || n.exponent.isSome then none
  else if valueOf n.whole ≤ limit then some (valueOf n.whole)
  else none

/-- Digits taken up while the number they write stays within the limit of whole numbers. -/
structure Significand where
  value : Nat
  dropped : List Char

/-- Takes up as many digits as fit behind `value`. -/
def takeDigits (value : Nat) : List Char → Significand
  | [] => ⟨value, []⟩
  | c :: rest =>
    if 10 * value + digitValue c ≤ wholeLimit then takeDigits (10 * value + digitValue c) rest
    else ⟨value, c :: rest⟩

/-- The powers of ten up to the largest that is a double. -/
def powerOfTen (n : Nat) : Float :=
  Float.ofScientific 1 false n

/-- `x / 10 ^ n`, in steps of at most 308 places; at most `steps` of them. -/
def divideByPower : Nat → Float → Nat → Float
  | 0, x, _ => x
  | steps + 1, x, n =>
    if n ≤ 308 then x / powerOfTen n
    else if x == 0.0 then x
    else divideByPower steps (x / powerOfTen 308) (n - 308)

/-- `value * 10 ^ exponent` by one multiplication or division of doubles; nothing if the result is
too large. -/
def scale? (value : Nat) (exponent : Int) : Option Float :=
  let x := (UInt64.ofNat value).toFloat
  if 0 ≤ exponent then
    if exponent ≤ 308 then
      let y := x * powerOfTen exponent.toNat
      if isFinite y then some y else none
    else if value == 0 then some x
    else none
  else some (divideByPower (exponent.natAbs / 308 + 1) x exponent.natAbs)

/-- The double a numeral stands for; nothing if it is too large. The leading digits that fit into
a whole number are scaled by the power of ten that is left. -/
def toFloat? (n : Numeral) : Option Float :=
  let whole := takeDigits 0 n.whole
  let all := takeDigits whole.value n.fraction
  let place : Int := whole.dropped.length - (n.fraction.length - all.dropped.length : Nat)
  let written : Option Int := n.exponent.map fun (negative, digits) =>
    if negative then -(valueOf digits : Int) else valueOf digits
  let magnitude? : Option Float :=
    match written with
    | none => scale? all.value place
    | some e =>
      if e.natAbs < Nat.pow 2 31 then scale? all.value (place + e)
      else if 0 < e && all.value != 0 then none
      else some 0.0
  magnitude?.map fun x => if n.negative then -x else x

/-- The shortest numeral of a finite double. It is positional from `1e-5` up to `1e16`, and then
always has a fraction; beyond, one digit stands before the point. -/
def ofParts (negative : Bool) (mantissa : Nat) (exponent : Int) : Numeral :=
  let d := shortest mantissa exponent
  let digits := digitsOf d.coefficient
  let point : Int := digits.length + d.exponent
  if d.coefficient == 0 then { negative, whole := ['0'], fraction := ['0'] }
  else if 0 ≤ d.exponent && point ≤ 16 then
    { negative, whole := digits ++ List.replicate d.exponent.toNat '0', fraction := ['0'] }
  else if 0 < point && point ≤ 16 then
    { negative, whole := digits.take point.toNat, fraction := digits.drop point.toNat }
  else if -5 < point && point ≤ 0 then
    { negative, whole := ['0'], fraction := List.replicate (-point).toNat '0' ++ digits }
  else
    { negative, whole := digits.take 1, fraction := digits.drop 1
      exponent := some (decide (point - 1 < 0), digitsOf (point - 1).natAbs) }

def write (n : Numeral) : List Char :=
  let sign := if n.negative then ['-'] else []
  let fraction := if n.fraction.isEmpty then [] else '.' :: n.fraction
  let exponent := match n.exponent with
    | none => []
    | some (negative, digits) => 'e' :: (if negative then ['-'] else []) ++ digits
  sign ++ n.whole ++ fraction ++ exponent

end Numeral

/-- The shortest text that reads back as the double. -/
def floatText (x : Float) : String :=
  match value x with
  | .nan => "NaN"
  | .infinite negative => if negative then "-inf" else "inf"
  | .finite negative mantissa exponent =>
    String.ofList (Numeral.ofParts negative mantissa exponent).write

end Autograder
