import Autograder.Number.Total

/-!
# Calendar

Days are counted from the first of January 1970 in the Gregorian calendar, extended backwards
without end.
-/

namespace Autograder.Time

open Autograder.Number

structure Date where
  year : Int
  month : Nat
  day : Nat
deriving DecidableEq

/-- Years divisible by four, but of full centuries only every fourth. -/
def isLeapYear (year : Int) : Bool :=
  year % 4 == 0 && (year % 100 != 0 || year % 400 == 0)

def daysInMonth (year : Int) (month : Nat) : Nat :=
  if month == 2 then if isLeapYear year then 29 else 28
  else if [4, 6, 9, 11].contains month then 30
  else 31

/-- The day number of the first of January. -/
def firstDayOf (year : Int) : Int :=
  let past := year - 1
  365 * past + past / 4 - past / 100 + past / 400 - 719162

/-- The number of days in the year before a month. -/
def daysBefore (year : Int) (month : Nat) : Nat :=
  total ((List.range' 1 (month - 1)).map (daysInMonth year))

namespace Date

/-- Whether the month and the day exist. -/
def isValid (date : Date) : Bool :=
  1 ≤ date.month && date.month ≤ 12 && 1 ≤ date.day
    && date.day ≤ daysInMonth date.year date.month

/-- The day number of a date. -/
def toDays (date : Date) : Int :=
  firstDayOf date.year + daysBefore date.year date.month + (date.day - 1 : Nat)

/-- The date at an offset from the first of a month, at most `steps` months later. -/
def advance : Nat → Int → Nat → Nat → Date
  | 0, year, month, offset => ⟨year, month, offset + 1⟩
  | steps + 1, year, month, offset =>
    if offset < daysInMonth year month then ⟨year, month, offset + 1⟩
    else advance steps year (month + 1) (offset - daysInMonth year month)

/-- The date of a day number. The mean length of a year gives the year up to one. -/
def ofDays (days : Int) : Date :=
  let guess := days * 400 / 146097 + 1970
  let year :=
    if firstDayOf (guess + 1) ≤ days then guess + 1
    else if firstDayOf guess ≤ days then guess
    else guess - 1
  advance 11 year 1 (days - firstDayOf year).toNat

end Date

end Autograder.Time
