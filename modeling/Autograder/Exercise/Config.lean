import Autograder.Language.Basic

/-!
# Configuration of an exercise

An exercise is either for practice, graded against a reference solution, or an evaluation, graded by
its author's rubric.
-/

namespace Autograder

/-- What an exercise is for. -/
inductive ExerciseKind where
  | practice
  | evaluation
deriving DecidableEq, Repr

def ExerciseKind.name : ExerciseKind → String
  | practice => "practice"
  | evaluation => "evaluation"

/-- How an exercise is graded. -/
structure ExerciseConfig where
  kind : ExerciseKind := .practice
  /-- The language of submissions; detected if there is none. -/
  language : Option Language := none
  /-- Whether an evaluation may be taken only once. -/
  singleAttempt : Bool := true
deriving DecidableEq

/-- Whether a second attempt of the same user must be refused. -/
def ExerciseConfig.enforcesSingleAttempt (config : ExerciseConfig) : Bool :=
  config.kind = .evaluation && config.singleAttempt

end Autograder
