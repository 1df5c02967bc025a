import Autograder.Submission.Audit

/-!
# Submitting a solution

A submission is graded as the configuration of its exercise says: against the reference solution, or
by the author's rubric. An evaluation with a single attempt claims it before anything else is looked
at, and gives it back if the rubric turns out to be broken.
-/

namespace Autograder

namespace Exercises

/-- Refuses exercises that do not exist, and words faults of their material. -/
def fetch {α : Type} (exercises : Exercises) (id : ExerciseId)
    (part : ExerciseId → Except MaterialFault α) : Except SubmissionError α :=
  if exercises.has id then (part id).mapError .badMaterial else .error (.noExercise id)

/-- The configuration of an exercise that must exist. -/
def configOf (exercises : Exercises) (id : ExerciseId) : Except SubmissionError ExerciseConfig :=
  exercises.fetch id exercises.config

/-- The reference solution of an exercise that must exist. -/
def solutionOf (exercises : Exercises) (id : ExerciseId) : Except SubmissionError String := do
  let config ← exercises.configOf id
  exercises.fetch id (exercises.solution · config)

/-- The rules of an exercise that must exist. -/
def rulesOf (exercises : Exercises) (id : ExerciseId) : Except SubmissionError (List Rule) :=
  (exercises.fetch id exercises.rubric).map RubricFile.rules

end Exercises

namespace Attempt

/-- Grades code against the reference solution of the exercise. -/
def practise (attempt : Attempt) (exercises : Exercises) (config : ExerciseConfig)
    (code : String) : Except SubmissionError Outcome := do
  let solution ← exercises.solutionOf attempt.exercise
  return grade code.toList solution.toList config.language

/-- Grades code by the author's rubric of the exercise. -/
def evaluate (attempt : Attempt) (exercises : Exercises) (code : String) :
    Except SubmissionError Report := do
  let rules ← exercises.rulesOf attempt.exercise
  (Rubric.gradeBy rules code.toList).mapError .badRubric

/-- Grades code by the author's rubric, and enters the attempt into the ledger. -/
def sit (attempt : Attempt) (exercises : Exercises) (ledger : Ledger) (config : ExerciseConfig)
    (code : String) : Except SubmissionError Report × Ledger :=
  if config.enforcesSingleAttempt then
    match ledger.claim? attempt with
    | none => (.error .attemptUsed, ledger)
    | some claimed =>
      match attempt.evaluate exercises code with
      | .ok report => (.ok report, claimed)
      | .error error => (.error error, claimed.reset attempt)
  else
    match attempt.evaluate exercises code with
    | .ok report => (.ok report, ledger.record attempt)
    | .error error => (.error error, ledger)

/-- Grades code as the configuration of the exercise says. -/
def run (attempt : Attempt) (exercises : Exercises) (ledger : Ledger) (code : String) :
    Except SubmissionError SubmissionResult × Ledger :=
  match exercises.configOf attempt.exercise with
  | .error error => (.error error, ledger)
  | .ok config =>
    match config.kind with
    | .practice => ((attempt.practise exercises config code).map .practice, ledger)
    | .evaluation =>
      let (report, ledger) := attempt.sit exercises ledger config code
      (report.map .evaluation, ledger)

end Attempt

/-- What comes of a submission. -/
structure Submitted where
  /-- The result, or the error that the student sees. -/
  result : Except SubmissionError SubmissionResult
  ledger : Ledger
  entry : AuditEntry

def Attempt.submit (attempt : Attempt) (exercises : Exercises) (ledger : Ledger)
    (code : String) : Submitted :=
  let (result, ledger) := attempt.run exercises ledger code
  { result := result.mapError SubmissionError.shown
    ledger
    entry := .ofResult attempt result }

end Autograder
