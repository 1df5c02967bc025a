import Autograder.Number.Total
import Autograder.Time.Timestamp

/-!
# Rubrics written by authors

An author lists rules: a pattern, the points for a submission in which it is found, and what to say
if it is not. The rules of an exercise are stored with a date and a total.
-/

namespace Autograder

structure Rule where
  label : String
  pattern : String
  points : Nat
  feedback : String
deriving DecidableEq

/-- A stored rubric. The total is computed anew on loading. -/
structure RubricFile where
  updatedAt : Time.Timestamp := .epoch
  rules : List Rule
  totalPoints : Nat := 0
deriving DecidableEq

/-- The sum of the points of all rules, counted in 32 bits. -/
def RubricFile.sumOfPoints (file : RubricFile) : Nat :=
  Number.total32 (file.rules.map Rule.points)

/-- The stored rubric with the total that its rules give. -/
def RubricFile.withTotal (file : RubricFile) : RubricFile :=
  { file with totalPoints := file.sumOfPoints }

end Autograder
