import Autograder.Log.Record
import Autograder.Submission.Result

/-!
# The audit trail

Every submission leaves an entry, whether it was graded or not.
-/

namespace Autograder

/-- What is kept of a submission, apart from the time at which the entry is made. -/
structure AuditEntry where
  attempt : Attempt
  success : Bool
  score : Nat
deriving DecidableEq

namespace AuditEntry

/-- The entry of a submission; one without a result fails with no score. -/
def ofResult (attempt : Attempt) : Except SubmissionError SubmissionResult → AuditEntry
  | .ok result => ⟨attempt, result.success, result.score⟩
  | .error _ => ⟨attempt, false, 0⟩

/-- The entry as a log record, without the time that its message ends in. -/
def record (entry : AuditEntry) : Log.Record where
  severity := .info
  source := "audit"
  message :=
    "user=" ++ entry.attempt.user ++ " unit=" ++ entry.attempt.exercise.unit ++ " exercise="
      ++ entry.attempt.exercise.name ++ " success=" ++ toString entry.success ++ " score="
      ++ toString entry.score

end AuditEntry

end Autograder
