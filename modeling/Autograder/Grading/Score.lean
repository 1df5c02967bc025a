import Autograder.Number.Rounding
import Autograder.Rubric.Criterion

/-!
# Scores

The score of a submission is its similarity with the solution and the share of rubric points it
earned, both in percent, blended and rounded to a whole number of at most 100. The similarity alone
decides whether the submission passes.
-/

namespace Autograder.Score

open Autograder.Number

/-- The similarity from which on a submission passes. -/
def passMark : Float := 70.0

/-- The earned share of the points, in percent. -/
def ofRubric (assessments : List Assessment) : Float :=
  let total := totalPoints (assessments.map Assessment.criterion)
  let awarded := Number.total32 (assessments.map Assessment.awarded)
  if total == 0 then 0.0 else 100.0 * Float.ofNat awarded / Float.ofNat total

/-- The score out of 100: three fifths similarity, two fifths rubric. -/
def final (similarity rubricScore : Float) : Nat :=
  roundClamped 100 (similarity * 0.6 + rubricScore * 0.4)

def passes (similarity : Float) : Bool :=
  passMark ≤ similarity

end Autograder.Score
