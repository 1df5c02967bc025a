import Autograder.Text.Split

/-!
# Comparing two texts line by line

Line `n` of the submission is compared with line `n` of the solution only; a missing line counts as
an empty one. The similarity is the share of equal lines in percent.
-/

namespace Autograder

open Autograder.Text

/-- A line that both texts share. -/
structure MatchedLine where
  line : Nat
  content : String
deriving DecidableEq

/-- A line in which the texts differ. -/
structure DiffLine where
  line : Nat
  expected : String
  actual : String
deriving DecidableEq

structure Comparison where
  similarity : Float
  matched : List MatchedLine
  diffs : List DiffLine
deriving Inhabited

namespace Comparison

/-- How many lines were compared. -/
def lineCount (comparison : Comparison) : Nat :=
  comparison.matched.length + comparison.diffs.length

/-- The lines at one position, of the submission first. -/
structure LinePair where
  line : Nat
  actual : List Char
  expected : List Char
deriving DecidableEq

/-- Pairs the lines from number `n` on, the shorter text being filled up with empty lines. -/
def pairFrom (n : Nat) : List (List Char) → List (List Char) → List LinePair
  | [], [] => []
  | a :: actual, [] => ⟨n, a, []⟩ :: pairFrom (n + 1) actual []
  | [], e :: expected => ⟨n, [], e⟩ :: pairFrom (n + 1) [] expected
  | a :: actual, e :: expected => ⟨n, a, e⟩ :: pairFrom (n + 1) actual expected

/-- The similarity of two texts of which `matched` out of `total` lines agree. -/
def similarityOf (matched total : Nat) : Float :=
  if total == 0 then 0.0 else 100.0 * Float.ofNat matched / Float.ofNat total

def ofTexts (student solution : List Char) : Comparison :=
  let pairs := pairFrom 1 (lines student) (lines solution)
  let (same, different) := pairs.partition fun pair => pair.actual == pair.expected
  { similarity := similarityOf same.length pairs.length
    matched := same.map fun pair => ⟨pair.line, String.ofList pair.actual⟩
    diffs := different.map fun pair =>
      ⟨pair.line, String.ofList pair.expected, String.ofList pair.actual⟩ }

end Comparison

end Autograder
