import Autograder.Exercise.Location

/-!
# The ledger of attempts

The ledger holds who has used an attempt at which exercise. A claim enters an attempt only if it is
not there yet, and a reset takes it out again.
-/

namespace Autograder

/-- An attempt of a user at an exercise. -/
structure Attempt where
  user : String
  exercise : ExerciseId
deriving DecidableEq

/-- The attempts that are used up. -/
structure Ledger where
  attempts : List Attempt := []
deriving DecidableEq

namespace Ledger

def has (ledger : Ledger) (attempt : Attempt) : Bool :=
  ledger.attempts.contains attempt

/-- The ledger with the attempt. -/
def record (ledger : Ledger) (attempt : Attempt) : Ledger :=
  if ledger.has attempt then ledger else ⟨attempt :: ledger.attempts⟩

/-- The ledger with the attempt, unless it was there before. -/
def claim? (ledger : Ledger) (attempt : Attempt) : Option Ledger :=
  if ledger.has attempt then none else some (ledger.record attempt)

/-- The ledger without the attempt. -/
def reset (ledger : Ledger) (attempt : Attempt) : Ledger :=
  ⟨ledger.attempts.filter (· != attempt)⟩

end Ledger

end Autograder
