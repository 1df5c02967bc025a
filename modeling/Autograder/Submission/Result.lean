import Autograder.Exercise.Material
import Autograder.Grading.Outcome
import Autograder.Rubric.Authored
import Autograder.Submission.Ledger

/-!
# Results of submissions

A submission to an exercise ends in the outcome of practice, the report of an evaluation, or an
error. Errors that are not the student's affair are not shown: a general message takes their place.
-/

namespace Autograder

/-- What a submission is graded with. -/
inductive SubmissionResult where
  | practice (outcome : Outcome)
  | evaluation (report : Report)

namespace SubmissionResult

/-- The name of the kind of result in answers. -/
def kind : SubmissionResult → ExerciseKind
  | practice _ => .practice
  | evaluation _ => .evaluation

/-- The score out of 100. -/
def score : SubmissionResult → Nat
  | practice outcome => outcome.score
  | evaluation report => report.percentage

/-- Whether the submission passes; an evaluation passes by its percentage. -/
def success : SubmissionResult → Bool
  | practice outcome => outcome.success
  | evaluation report => Score.passes (Float.ofNat report.percentage)

end SubmissionResult

/-- Why a submission has no result. -/
inductive SubmissionError where
  | noExercise (id : ExerciseId)
  /-- The only attempt is used up. -/
  | attemptUsed
  | badMaterial (fault : MaterialFault)
  | badRubric (fault : RubricFault)
  /-- Something is wrong that the student is not told. -/
  | internal
deriving DecidableEq

namespace SubmissionError

def message : SubmissionError → String
  | noExercise id => "El ejercicio " ++ id.name ++ " de la unidad " ++ id.unit ++ " no existe"
  | attemptUsed => "Ya utilizaste tu intento para esta evaluación"
  | badMaterial fault => "Storage error: " ++ fault.message
  | badRubric fault => "Evaluator error: " ++ fault.message
  | internal => "Ocurrió un error al evaluar tu código. Inténtalo de nuevo."

/-- Whether students may see the error. -/
def isShown : SubmissionError → Bool
  | noExercise _ | attemptUsed | internal => true
  | badMaterial _ | badRubric _ => false

/-- The error that the student sees. -/
def shown (error : SubmissionError) : SubmissionError :=
  if error.isShown then error else .internal

end SubmissionError

end Autograder
