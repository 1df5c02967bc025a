import Autograder.Number.Rounding
import Autograder.Rubric.Criterion

/-!
# Reports on an author's rubric

A report tells for every rule whether it was met and adds up the points.
-/

namespace Autograder

open Autograder.Number

/-- What a report says about one rule. -/
structure RuleResult where
  label : String
  correct : Bool
  awarded : Nat
  total : Nat
  feedback : String
deriving DecidableEq

/-- The result of an assessment: praise, or the criterion's hint. -/
def RuleResult.ofAssessment (assessment : Assessment) : RuleResult where
  label := assessment.criterion.label
  correct := assessment.satisfied
  awarded := assessment.awarded
  total := assessment.criterion.points
  feedback := if assessment.satisfied then "Correcto" else assessment.criterion.hint.getD ""

structure Report where
  score : Nat
  max : Nat
  results : List RuleResult
deriving DecidableEq

/-- The points in percent, rounded to a whole number. -/
def Report.percentage (report : Report) : Nat :=
  if report.max == 0 then 0
  else roundClamped (Nat.pow 2 32 - 1)
    (Float.ofNat report.score * 100.0 / Float.ofNat report.max)

end Autograder
