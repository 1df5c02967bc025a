import Autograder.Text.Blank
import Autograder.Time.Calendar

/-!
# Timestamps

A point in time is read from a date, a time of day and an offset, and written in UTC. Reading is
lenient about blanks between the parts and about the width of numbers.
-/

namespace Autograder.Time

open Autograder.Text

/-- Seconds since the start of 1970 and a fraction in nanoseconds. In a leap second the fraction
counts on beyond a full second. -/
structure Timestamp where
  seconds : Int
  nanos : Nat
deriving DecidableEq

namespace Timestamp

def epoch : Timestamp :=
  ⟨0, 0⟩

/-- The years that dates may lie in. -/
def yearRange : Int × Int :=
  (-262143, 262142)

/-- A number of one up to `width` digits; more digits are left in the text. -/
def readNumber (width : Nat) (s : List Char) : Option (Nat × List Char) :=
  let digits := (s.take width).takeWhile Char.isDigit
  let n := digits.foldl (fun n c => 10 * n + (c.toNat - '0'.toNat)) 0
  if digits.isEmpty || Nat.pow 2 63 ≤ n then none else some (n, s.drop digits.length)

/-- The text after a character that it starts with. -/
def readChar (c : Char) : List Char → Option (List Char)
  | d :: rest => if c == d then some rest else none
  | [] => none

/-- A number between two bounds after blanks. -/
def readBounded (low high width : Nat) (s : List Char) : Option (Nat × List Char) := do
  let (n, s) ← readNumber width (trimStart s)
  if low ≤ n && n ≤ high then some (n, s) else none

/-- A year: up to four digits, or any number of them after a sign. -/
def readYear (s : List Char) : Option (Int × List Char) :=
  match trimStart s with
  | '-' :: rest => (readNumber rest.length rest).map fun (n, rest) => (-n, rest)
  | '+' :: rest => (readNumber rest.length rest).map fun (n, rest) => (n, rest)
  | rest => (readNumber 4 rest).map fun (n, rest) => (n, rest)

/-- The fraction of a second in nanoseconds, if there is one; digits after the ninth are skipped. -/
def readNanos : List Char → Option (Nat × List Char)
  | '.' :: rest => do
    let (n, left) ← readNumber 9 rest
    return (n * Nat.pow 10 (9 - (rest.length - left.length)), left.dropWhile Char.isDigit)
  | s => some (0, s)

def readSign : List Char → Option (Int × List Char)
  | '+' :: rest => some (1, rest)
  | '-' :: rest => some (-1, rest)
  | '\u2212' :: rest => some (-1, rest)
  | _ => none

def readPair : List Char → Option (Nat × List Char)
  | a :: b :: rest =>
    if a.isDigit && b.isDigit then
      some (10 * (a.toNat - '0'.toNat) + (b.toNat - '0'.toNat), rest)
    else none
  | _ => none

/-- The offset from UTC in seconds: a `Z`, the letters `UTC`, or hours and minutes with a sign. -/
def readOffset (s : List Char) : Option (Int × List Char) :=
  if (s.take 3).map Char.toUpper == ['U', 'T', 'C'] then some (0, s.drop 3)
  else match s with
    | 'Z' :: rest => some (0, rest)
    | 'z' :: rest => some (0, rest)
    | _ => do
      let (sign, s) ← readSign s
      let (hours, s) ← readPair s
      let (minutes, s) ← readPair (s.dropWhile fun c => c == ':' || isBlank c)
      if minutes < 60 && hours < 24 then
        some (sign * (3600 * hours + 60 * minutes : Nat), s)
      else none

def parse? (text : String) : Option Timestamp := do
  let s := text.toList
  let (year, s) ← readYear s
  let s ← readChar '-' (trimStart s)
  let (month, s) ← readBounded 1 12 2 s
  let s ← readChar '-' (trimStart s)
  let (day, s) ← readBounded 1 31 2 s
  let s ← match s with
    | c :: rest => if ['t', 'T', ' '].contains c then some rest else none
    | [] => none
  let (hour, s) ← readBounded 0 23 2 s
  let s ← readChar ':' (trimStart s)
  let (minute, s) ← readBounded 0 59 2 s
  let s ← readChar ':' (trimStart s)
  let (second, s) ← readBounded 0 60 2 s
  let (nanos, s) ← readNanos s
  let (offset, s) ← readOffset (trimStart s)
  let date : Date := ⟨year, month, day⟩
  let seconds : Int :=
    86400 * date.toDays + (3600 * hour + 60 * minute + min second 59 : Nat) - offset
  let inRange (year : Int) := yearRange.1 ≤ year && year ≤ yearRange.2
  if (trimStart s).isEmpty && inRange year && date.isValid
      && inRange (Date.ofDays (seconds / 86400)).year then
    some ⟨seconds, if second == 60 then nanos + Nat.pow 10 9 else nanos⟩
  else none

/-- The digits of a number, filled up with zeros from the left. -/
def padded (width n : Nat) : String :=
  let digits := Nat.toDigits 10 n
  String.ofList (List.replicate (width - digits.length) '0' ++ digits)

/-- A year with four digits at least, and with a sign outside of four digits. -/
def writeYear (year : Int) : String :=
  if 0 ≤ year && year ≤ 9999 then padded 4 year.toNat
  else (if year < 0 then "-" else "+") ++ padded 4 year.natAbs

/-- A fraction of a second with three, six or nine digits, as many as it needs. -/
def writeNanos (nanos : Nat) : String :=
  if nanos == 0 then ""
  else if nanos % Nat.pow 10 6 == 0 then "." ++ padded 3 (nanos / Nat.pow 10 6)
  else if nanos % Nat.pow 10 3 == 0 then "." ++ padded 6 (nanos / Nat.pow 10 3)
  else "." ++ padded 9 nanos

def write (t : Timestamp) : String :=
  let date := Date.ofDays (t.seconds / 86400)
  let second := (t.seconds % 86400).toNat
  let leap := if Nat.pow 10 9 ≤ t.nanos then 1 else 0
  writeYear date.year ++ "-" ++ padded 2 date.month ++ "-" ++ padded 2 date.day ++ "T"
    ++ padded 2 (second / 3600) ++ ":" ++ padded 2 (second / 60 % 60) ++ ":"
    ++ padded 2 (second % 60 + leap) ++ writeNanos (t.nanos % Nat.pow 10 9) ++ "Z"

end Timestamp

end Autograder.Time
