import Autograder.Text.Split

/-!
# Tables of code points

A table lists closed ranges of code points. Looking a number up asks every range. Large tables are
written as texts of numbers in base 36, in pairs: the gap since the range before, and how many code
points the range has beyond its first.
-/

namespace Autograder.Text

def inRanges (ranges : List (Nat × Nat)) (n : Nat) : Bool :=
  ranges.any fun range => range.1 ≤ n && n ≤ range.2

theorem inRanges_iff {ranges : List (Nat × Nat)} {n : Nat} :
    inRanges ranges n = true ↔ ∃ range ∈ ranges, range.1 ≤ n ∧ n ≤ range.2 := by
  simp [inRanges]

def digit36 (c : Char) : Nat :=
  if c.isDigit then c.toNat - '0'.toNat else c.toNat - 'a'.toNat + 10

/-- The number that a text writes in base 36. -/
def number36 (s : List Char) : Nat :=
  s.foldl (fun n c => 36 * n + digit36 c) 0

/-- The ranges that pairs of gaps and extents describe, from `next` on. -/
def rangesFrom (next : Nat) : List Nat → List (Nat × Nat)
  | gap :: extent :: rest =>
    (next + gap, next + gap + extent) :: rangesFrom (next + gap + extent + 1) rest
  | _ => []

/-- The ranges that the lines of a table describe. -/
def decodeRanges (rows : List String) : List (Nat × Nat) :=
  rangesFrom 0 (rows.flatMap fun row => (splitAt (· == ' ') row.toList).map number36)

end Autograder.Text
