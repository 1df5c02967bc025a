import Autograder.Check.C
import Autograder.Check.Pseint
import Autograder.Grading.Feedback
import Autograder.Grading.Score
import Autograder.Language.Detection
import Autograder.Rubric.Derived
import Autograder.Source.Normal

/-!
# Grading against a solution

A submission is checked in its language first. Only one without faults is compared with the
reference solution, both in normal form, and assessed by the rubric derived from the solution.
-/

namespace Autograder

open Autograder.Check Autograder.Source

/-- How far a submission came: it has faults, or it was scored. -/
inductive Stage where
  | faulty
  | scored
deriving DecidableEq, Repr

def Stage.name : Stage → String
  | faulty => "sintaxis"
  | scored => "logica"

structure Details where
  faults : List Fault
  comparison : Option Comparison
  rubricScore : Float

structure Outcome where
  success : Bool
  feedback : List String
  score : Nat
  rubric : List Assessment
  language : Language
  stage : Stage
  similarity : Option Float
  details : Details
  recommendations : List String
  summary : String

def Language.check : Language → List Char → List Finding
  | .c => Check.C.check
  | .pseint => Check.Pseint.check

/-- What grading may be asked to do differently: another way to compare, another way to word
feedback. -/
structure GradingStrategy where
  compare : List Char → List Char → Comparison := Comparison.ofTexts
  style : FeedbackStyle := Feedback.standard

namespace Outcome

/-- The outcome of a submission with faults. -/
def ofFaults (style : FeedbackStyle) (language : Language) (faults : List Fault) : Outcome where
  success := false
  feedback := style.faultMessages faults
  score := 0
  rubric := []
  language := language
  stage := .faulty
  similarity := none
  details := { faults, comparison := none, rubricScore := 0.0 }
  recommendations := style.faultRecommendations
  summary := Feedback.faultSummary faults.length

/-- The outcome of a submission that was compared with the solution. -/
def ofComparison (style : FeedbackStyle) (language : Language) (comparison : Comparison)
    (assessments : List Assessment) : Outcome :=
  let similarity := comparison.similarity
  let rubricScore := Score.ofRubric assessments
  let score := Score.final similarity rubricScore
  let success := Score.passes similarity
  { success
    feedback := style.messages comparison assessments
    score
    rubric := assessments
    language
    stage := .scored
    similarity := some similarity
    details := { faults := [], comparison := some comparison, rubricScore }
    recommendations := style.recommendations similarity
    summary := Feedback.scoreSummary score similarity success }

end Outcome

/-- Grades a submission against a solution. The language is detected if none is given. -/
def grade (student solution : List Char) (language : Option Language := none)
    (strategy : GradingStrategy := {}) : Outcome :=
  let language := language.getD (Language.detect student)
  match language.check student with
  | [] =>
    let comparison := strategy.compare (normalize student) (normalize solution)
    let assessments := Rubric.assess (Rubric.derive solution) (some comparison)
    .ofComparison strategy.style language comparison assessments
  | findings => .ofFaults strategy.style language (findings.map Finding.fault)

end Autograder
