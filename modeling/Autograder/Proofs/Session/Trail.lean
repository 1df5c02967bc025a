import Autograder.Proofs.Grading.Strategies
import Autograder.Proofs.Rubric.Percentage
import Autograder.Proofs.Session.LedgerHistory
import Autograder.Proofs.Submission.Verdict

/-!
# The audit trail over a whole session

Every submission leaves one entry in the trail, and so does every entry that is put there by hand;
nothing else does. The entry says of a submission what its answer says, and a submission that was
not graded fails with no score. An error is rewritten for the student only after the entry was made,
which does not show, because an entry does not tell errors apart.
-/

namespace Autograder.Proofs

open Autograder.Session

variable {attempt : Attempt} {session start : Session} {step : Step} {steps : List Step}

/-- What a step leaves in the trail, by its answer. A submission that is audited in the log leaves
nothing there. -/
inductive Leaves : Step → Answer → List AuditEntry → Prop where
  | practice {attempt : Attempt} {code : String} {outcome : Outcome} :
      Leaves (.submit attempt code) (.submitted (.ok (.practice outcome)))
        [⟨attempt, outcome.success, outcome.score⟩]
  | evaluation {attempt : Attempt} {code : String} {report : Report} :
      Leaves (.submit attempt code) (.submitted (.ok (.evaluation report)))
        [⟨attempt, decide (70 ≤ report.percentage), report.percentage⟩]
  | error {attempt : Attempt} {code : String} {error : SubmissionError} :
      Leaves (.submit attempt code) (.submitted (.error error)) [⟨attempt, false, 0⟩]
  | audit {entry : AuditEntry} : Leaves (.audit entry) (.done true) [entry]
  | nothing {step : Step} {answer : Answer} (submits : ∀ attempt code, step ≠ .submit attempt code)
      (audits : ∀ entry, step ≠ .audit entry) : Leaves step answer []

/-- What the steps of a run leave in the trail, in order. -/
inductive LeavesInOrder : List Step → List Answer → List AuditEntry → Prop where
  | nil : LeavesInOrder [] [] []
  | cons {step : Step} {answer : Answer} {own : List AuditEntry} {steps : List Step}
      {answers : List Answer} {entries : List AuditEntry} (first : Leaves step answer own)
      (rest : LeavesInOrder steps answers entries) :
      LeavesInOrder (step :: steps) (answer :: answers) (own ++ entries)

/-- The points of the stored rubric fit 32 bits, if there is one. -/
def RubricFits (exercises : Exercises) (id : ExerciseId) : Prop :=
  ∀ rules, HasRules exercises id rules → Number.total (rules.map Rule.points) < 2 ^ 32

section Submit

variable {exercises : Exercises} {ledger : Ledger} {code : String}

lemma ofResult_mapError (f : SubmissionError → SubmissionError)
    (result : Except SubmissionError SubmissionResult) :
    AuditEntry.ofResult attempt (result.mapError f) = AuditEntry.ofResult attempt result := by
  cases result <;> rfl

/-- The entry can be read off what the student sees. -/
lemma submit_entry : (attempt.submit exercises ledger code).entry =
    .ofResult attempt (attempt.submit exercises ledger code).result :=
  (ofResult_mapError _ _).symm

lemma leaves_ofResult (result : Except SubmissionError SubmissionResult) :
    Leaves (.submit attempt code) (.submitted result) [.ofResult attempt result] := by
  cases result with
  | error error => exact .error
  | ok result =>
    cases result with
    | practice outcome => exact .practice
    | evaluation report =>
      rw [AuditEntry.ofResult, success_evaluation_eq]
      exact .evaluation

lemma score_grade_le_hundred (student solution : List Char) (language : Option Language) :
    (grade student solution language).score ≤ 100 := by
  by_cases h : findingsOf student language = []
  · rw [grade_eq_ofComparison solution _ h]
    exact final_le_hundred _ _
  · rw [grade_eq_ofFaults solution _ h]
    exact Nat.zero_le _

lemma rubricFits_of_rubric {id : ExerciseId} {file : RubricFile}
    (h : exercises.rubric id = .ok file)
    (hfits : Number.total (file.rules.map Rule.points) < 2 ^ 32) : RubricFits exercises id := by
  intro rules hrules
  obtain ⟨stored, hstored, rfl⟩ := rubric_of_hasRules hrules
  obtain rfl := Except.ok.inj (h.symm.trans hstored)
  exact hfits

lemma score_entry_le_hundred (hfits : RubricFits exercises attempt.exercise) :
    (attempt.submit exercises ledger code).entry.score ≤ 100 := by
  obtain ⟨verdict, hverdict⟩ := exists_verdict exercises ledger attempt code
  rw [submit_entry, submit_of_verdict hverdict]
  cases hverdict with
  | practice => exact score_grade_le_hundred _ _ _
  | evaluation _ _ _ _ sound =>
    obtain ⟨rules, hrules, hcheck⟩ := sound
    exact percentage_report_le_hundred hcheck (hfits rules hrules)
  -- the entry of an error has no score
  | _ => exact Nat.zero_le _

end Submit

section Step

lemma leaves_nothing (htrail : (session.step step).session.trail = session.trail)
    (hsubmits : ∀ attempt code, step ≠ .submit attempt code)
    (haudits : ∀ entry, step ≠ .audit entry) :
    ∃ own, (session.step step).session.trail = session.trail ++ own ∧
      Leaves step (session.step step).answer own :=
  ⟨[], by rw [htrail, List.append_nil], .nothing hsubmits haudits⟩

lemma trail_step (session : Session) (step : Step) :
    ∃ own, (session.step step).session.trail = session.trail ++ own ∧
      Leaves step (session.step step).answer own := by
  cases step with
  | submit attempt code =>
    let submitted := attempt.submit session.exercises session.ledger code
    refine ⟨[submitted.entry], rfl, ?_⟩
    rw [submit_entry]
    exact leaves_ofResult submitted.result
  | audit entry => exact ⟨[entry], rfl, .audit⟩
  | claim attempt => exact leaves_nothing (by rw [session_step_claim]) (by simp) (by simp)
  -- all other steps leave the trail alone
  | _ => exact leaves_nothing rfl (by simp) (by simp)

end Step

section Run

lemma trail_after (start : Session) (steps : List Step) :
    ∃ entries, (start.after steps).trail = start.trail ++ entries ∧
      LeavesInOrder steps ((start.run steps).map Next.answer) entries := by
  induction steps generalizing start with
  | nil => exact ⟨[], (List.append_nil _).symm, .nil⟩
  | cons step steps ih =>
    obtain ⟨own, hown, hleaves⟩ := trail_step start step
    obtain ⟨entries, hentries, hrest⟩ := ih (start.step step).session
    refine ⟨own ++ entries, ?_, .cons hleaves hrest⟩
    rw [after_cons, hentries, hown, List.append_assoc]

lemma trail_after_submit (before : List Step) (code : String) :
    (start.after (before ++ [.submit attempt code])).trail = (start.after before).trail ++
      [(attempt.submit (start.after before).exercises (start.after before).ledger code).entry] := by
  rw [after_append]
  rfl

/-- Over any run the trail grows by one entry for each submission and each entry put there by hand,
in order. It names the attempt and repeats what the answer says, and the score of a submission is at
most a hundred if the points of the rubric fit 32 bits. -/
theorem trail_law (start : Session) (steps : List Step) :
    (∃ entries, (start.after steps).trail = start.trail ++ entries ∧
      LeavesInOrder steps ((start.run steps).map Next.answer) entries) ∧
    ∀ attempt code before later, steps = before ++ .submit attempt code :: later →
      RubricFits (start.after before).exercises attempt.exercise →
      ∃ entry, (start.after (before ++ [.submit attempt code])).trail =
          (start.after before).trail ++ [entry] ∧
        entry.attempt = attempt ∧ entry.score ≤ 100 := by
  refine ⟨trail_after start steps, fun attempt code before later _ hfits => ?_⟩
  refine ⟨_, trail_after_submit before code, ?_, score_entry_le_hundred hfits⟩
  rw [submit_entry]
  cases (attempt.submit _ _ code).result <;> rfl

/-- An evaluation that is passed leaves its percentage. -/
theorem trail_law_retaken :
    let attempt : Attempt := ⟨"u", ⟨"1", "a"⟩⟩
    let steps := retakenSteps attempt
    let start : Session := { root := "/" }
    RubricFits (start.after (steps.take 2)).exercises attempt.exercise ∧
      (start.after (steps.take 3)).trail = [⟨attempt, true, 100⟩] ∧
      ∃ entry, (start.after (steps.take 3)).trail = [entry] ∧ entry.score ≤ 100 := by
  intro attempt steps start
  have hrubric : (start.after (steps.take 2)).exercises.rubric attempt.exercise =
      .ok { rules := [⟨"", "", 1, ""⟩], totalPoints := 1 } := by decide +kernel
  have hfits := rubricFits_of_rubric hrubric (by decide)
  obtain ⟨entry, htrail, -, hscore⟩ :=
    (trail_law start steps).2 attempt "x" (steps.take 2) _ rfl hfits
  exact ⟨hfits, by decide +kernel, entry, htrail, hscore⟩

end Run

end Autograder.Proofs
