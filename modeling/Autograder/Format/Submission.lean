import Autograder.Format.Grading
import Autograder.Submission.Audit

/-!
# Records of submissions

How the results of submissions and the entries of the audit trail are written.
-/

namespace Autograder

namespace SubmissionResult

/-- The grading that the result holds. -/
def gradingJson : SubmissionResult → Json
  | practice outcome => outcome.toJson
  | evaluation report => report.toJson

def toJson (result : SubmissionResult) : Json :=
  .ofFields [
    ("tipo", result.kind.toJson),
    ("resultado", result.gradingJson)]

end SubmissionResult

def AuditEntry.toJson (entry : AuditEntry) : Json :=
  .ofFields [
    ("user_id", .ofString entry.attempt.user),
    ("unit", .ofString entry.attempt.exercise.unit),
    ("exercise", .ofString entry.attempt.exercise.name),
    ("success", .bool entry.success),
    ("score", .ofNat entry.score)]

end Autograder
