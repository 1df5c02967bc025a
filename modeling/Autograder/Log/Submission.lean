import Autograder.Log.Grading
import Autograder.Submission.Submit

/-!
# Records of submissions

What a submission tells about its steps. The code itself is never told.
-/

namespace Autograder.Log

/-- A stored rubric has rules, but no points. -/
def worthlessRubric (id : ExerciseId) : Record where
  severity := .warn
  source := "util::fixed_rubric"
  message :=
    "rubric rules are all worth zero points unit=" ++ quoted id.unit ++ " exercise="
      ++ quoted id.name

/-- What loading a rubric tells. -/
def rubricLoading (exercises : Exercises) (id : ExerciseId) : List Record :=
  match exercises.rubric id with
  | .ok file => if file.totalPoints == 0 && !file.rules.isEmpty then [worthlessRubric id] else []
  | .error _ => []

def submissionSource : String :=
  "services::evaluation_service"

/-- A unit and an exercise in words. -/
def place (id : ExerciseId) : String :=
  "unit " ++ id.unit ++ ", exercise " ++ id.name

/-- The only attempt was used up before. -/
def secondAttempt (attempt : Attempt) : Record where
  severity := .warn
  source := submissionSource
  message :=
    "User " ++ attempt.user ++ " tried a second attempt on " ++ place attempt.exercise

/-- An evaluation was graded. -/
def scored (attempt : Attempt) (report : Report) : Record where
  severity := .info
  source := submissionSource
  message :=
    "User " ++ attempt.user ++ " scored " ++ toString report.score ++ "/" ++ toString report.max
      ++ " on " ++ place attempt.exercise

/-- A submission failed for a reason that the student is not told. -/
def failed (attempt : Attempt) (error : SubmissionError) : Record where
  severity := .error
  source := submissionSource
  message :=
    "Evaluation failed for user " ++ attempt.user ++ " (" ++ place attempt.exercise ++ "): "
      ++ error.message

/-- What grading by the author's rubric tells. -/
def evaluation (attempt : Attempt) (exercises : Exercises) (code : String) : List Record :=
  match exercises.rulesOf attempt.exercise with
  | .error _ => []
  | .ok rules => rubricLoading exercises attempt.exercise ++ ruleGrading rules code.toList

/-- What grading against the reference solution tells. -/
def practice (attempt : Attempt) (exercises : Exercises) (config : ExerciseConfig)
    (code : String) : List Record :=
  match exercises.solutionOf attempt.exercise with
  | .error _ => []
  | .ok solution => grading code.toList solution.toList config.language

/-- What a submission tells before it is audited. -/
def beforeAudit (attempt : Attempt) (exercises : Exercises) (ledger : Ledger) (code : String) :
    List Record :=
  match exercises.configOf attempt.exercise with
  | .error _ => []
  | .ok config =>
    match config.kind with
    | .practice => practice attempt exercises config code
    | .evaluation =>
      match (attempt.sit exercises ledger config code).1 with
      | .error .attemptUsed => [secondAttempt attempt]
      | .error _ => evaluation attempt exercises code
      | .ok report => evaluation attempt exercises code ++ [scored attempt report]

/-- What a submission tells after it was audited. -/
def afterAudit (attempt : Attempt) (exercises : Exercises) (ledger : Ledger) (code : String) :
    List Record :=
  match (attempt.run exercises ledger code).1 with
  | .error error => if error.isShown then [] else [failed attempt error]
  | .ok _ => []

end Autograder.Log
