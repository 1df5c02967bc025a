import Autograder.Proofs.Session.SingleAttempt
import Autograder.Proofs.Submission.Verdict

/-!
# What the log tells of submitted code

The steps of grading are told below the level of information. From there on, the log tells of a
submission who submitted, to which exercise, and how it ended; so two codes with the same marks
leave the same records. Whether a submission fails does not depend on its code, and neither does
anything that is told of a failure.
-/

namespace Autograder.Proofs

open Autograder.Log

/-- The records that are kept at the level of information, graver ones included. -/
def told (records : List Record) : List Record :=
  (Level.upTo .info).select records

/-- Two endings that cannot be told apart by their marks: the same error, or results that agree in
success and score, and in their points if both are reports. -/
inductive SameMarks : Except SubmissionError SubmissionResult →
    Except SubmissionError SubmissionResult → Prop where
  | error (error : SubmissionError) : SameMarks (.error error) (.error error)
  | ok {result other : SubmissionResult} (success : result.success = other.success)
      (score : result.score = other.score)
      (points : ∀ report report', result = .evaluation report → other = .evaluation report' →
        report.score = report'.score ∧ report.max = report'.max) :
      SameMarks (.ok result) (.ok other)

section Told

variable {records records' : List Record}

lemma told_append : told (records ++ records') = told records ++ told records' :=
  List.filter_append ..

lemma told_eq_nil (h : ∀ record ∈ records, record.severity = .debug) : told records = [] := by
  refine List.filter_eq_nil_iff.mpr fun record hrecord => ?_
  rw [h record hrecord]
  decide

lemma told_grading (student solution : List Char) (given : Option Language) :
    told (grading student solution given) = [] := by
  apply told_eq_nil
  intro record hrecord
  simp only [grading, comparison, List.mem_append] at hrecord
  rcases hrecord with (hdetection | hcheck) | hcomparison
  · split_ifs at hdetection
    · obtain rfl := List.mem_singleton.mp hdetection
      rfl
    · cases hdetection
  · simp only [List.mem_cons, List.not_mem_nil, or_false] at hcheck
    rcases hcheck with rfl | rfl
    · unfold check
      cases given.getD (Language.detect student) <;> rfl
    · rfl
  · split_ifs at hcomparison
    · simp only [List.mem_cons, List.not_mem_nil, or_false] at hcomparison
      rcases hcomparison with rfl | rfl <;> rfl
    · cases hcomparison

lemma told_ruleGrading (rules : List Rule) (code : List Char) :
    told (ruleGrading rules code) = [] := by
  apply told_eq_nil
  intro record hrecord
  unfold ruleGrading at hrecord
  split at hrecord
  · cases hrecord
  · rcases List.mem_append.mp hrecord with hunmet | hscored
    · obtain ⟨result, -, rfl⟩ := List.mem_map.mp hunmet
      rfl
    · obtain rfl := List.mem_singleton.mp hscored
      rfl

end Told

section Submit

variable {exercises : Exercises} {ledger : Ledger} {attempt : Attempt} {config : ExerciseConfig}

/-- What is told of loading the rubric of an exercise. -/
def toldOfRubric (exercises : Exercises) (id : ExerciseId) : List Record :=
  match exercises.rulesOf id with
  | .error _ => []
  | .ok _ => told (rubricLoading exercises id)

lemma told_evaluation (attempt : Attempt) (exercises : Exercises) (code : String) :
    told (evaluation attempt exercises code) = toldOfRubric exercises attempt.exercise := by
  unfold evaluation toldOfRubric
  cases exercises.rulesOf attempt.exercise with
  | error error => rfl
  | ok rules => rw [told_append, told_ruleGrading, List.append_nil]

lemma told_practice (attempt : Attempt) (exercises : Exercises) (config : ExerciseConfig)
    (code : String) : told (practice attempt exercises config code) = [] := by
  unfold practice
  cases exercises.solutionOf attempt.exercise with
  | error error => rfl
  | ok solution => exact told_grading _ _ _

/-- Practice fails for all codes or for none. -/
lemma practise_cases (attempt : Attempt) (exercises : Exercises) (config : ExerciseConfig) :
    (∃ error, ∀ code, attempt.practise exercises config code = .error error) ∨
      ∀ code, ∃ outcome, attempt.practise exercises config code = .ok outcome := by
  unfold Attempt.practise
  cases exercises.solutionOf attempt.exercise with
  | error error => exact .inl ⟨error, fun _ => rfl⟩
  | ok solution => exact .inr fun _ => ⟨_, rfl⟩

lemma evaluate_cases (attempt : Attempt) (exercises : Exercises) :
    (∃ error, ∀ code, attempt.evaluate exercises code = .error error) ∨
      ∀ code, ∃ report, attempt.evaluate exercises code = .ok report := by
  cases hrules : exercises.rulesOf attempt.exercise with
  | error error =>
    refine .inl ⟨error, fun code => ?_⟩
    unfold Attempt.evaluate
    rw [hrules]
    rfl
  | ok rules =>
    cases hcheck : Rubric.check rules with
    | error fault =>
      refine .inl ⟨.badRubric fault, fun code => ?_⟩
      rw [evaluate_of_rules code hrules, Rubric.gradeBy, hcheck]
      rfl
    | ok checked =>
      refine .inr fun code => ⟨Rubric.report checked (Source.normalize code.toList), ?_⟩
      rw [evaluate_of_rules code hrules, Rubric.gradeBy, hcheck]
      rfl

/-- What is told of sitting an evaluation, by its ending. -/
def toldOfSitting (exercises : Exercises) (attempt : Attempt) :
    Except SubmissionError Report → List Record
  | .error .attemptUsed => [secondAttempt attempt]
  | .error _ => toldOfRubric exercises attempt.exercise
  | .ok report => toldOfRubric exercises attempt.exercise ++ [scored attempt report]

lemma told_beforeAudit_of_evaluation (ledger : Ledger) (code : String)
    (hconfig : exercises.configOf attempt.exercise = .ok config)
    (hkind : config.kind = .evaluation) :
    told (beforeAudit attempt exercises ledger code) =
      toldOfSitting exercises attempt (attempt.sit exercises ledger config code).1 := by
  unfold beforeAudit
  simp only [hconfig, hkind]
  cases (attempt.sit exercises ledger config code).1 with
  | error error =>
    cases error with
    | attemptUsed => rfl
    | _ => exact told_evaluation attempt exercises code
  | ok report =>
    dsimp only
    rw [told_append, told_evaluation]
    rfl

/-- All that can be told of a submission before its audit. Only the points that end an evaluation
come from the code. -/
theorem told_cases (attempt : Attempt) (exercises : Exercises) (ledger : Ledger) :
    (∃ error records, ∀ code, (attempt.run exercises ledger code).1 = .error error ∧
        told (beforeAudit attempt exercises ledger code) = records) ∨
      (∀ code, ∃ outcome, (attempt.run exercises ledger code).1 = .ok (.practice outcome) ∧
        told (beforeAudit attempt exercises ledger code) = []) ∨
      ∃ records, ∀ code, ∃ report,
        (attempt.run exercises ledger code).1 = .ok (.evaluation report) ∧
        told (beforeAudit attempt exercises ledger code) = records ++ [scored attempt report] := by
  cases hconfig : exercises.configOf attempt.exercise with
  | error error =>
    refine .inl ⟨error, [], fun code => ⟨by rw [run_of_configError hconfig], ?_⟩⟩
    simp only [beforeAudit, hconfig]
    rfl
  | ok config =>
    cases hkind : config.kind with
    | practice =>
      have htold : ∀ code, told (beforeAudit attempt exercises ledger code) = [] := by
        intro code
        simp only [beforeAudit, hconfig, hkind]
        exact told_practice attempt exercises config code
      rcases practise_cases attempt exercises config with ⟨error, herror⟩ | hok
      · refine .inl ⟨error, [], fun code => ⟨?_, htold code⟩⟩
        rw [run_of_practice ledger code hconfig hkind, herror]
        rfl
      · refine .inr (.inl fun code => ?_)
        obtain ⟨outcome, houtcome⟩ := hok code
        refine ⟨outcome, ?_, htold code⟩
        rw [run_of_practice ledger code hconfig hkind, houtcome]
        rfl
    | evaluation =>
      have hrun := fun code => run_of_evaluation ledger code hconfig hkind
      have htold := fun code => told_beforeAudit_of_evaluation ledger code hconfig hkind
      by_cases hrefused : IsRefused ledger attempt config
      · refine .inl ⟨.attemptUsed, [secondAttempt attempt], fun code => ?_⟩
        rw [hrun, htold, sit_of_refused hrefused]
        exact ⟨rfl, rfl⟩
      · -- the rules are checked before the code is looked at
        rcases evaluate_cases attempt exercises with ⟨error, herror⟩ | hok
        · refine .inl ⟨error, toldOfSitting exercises attempt (.error error), fun code => ?_⟩
          rw [hrun, htold, sit_of_error hrefused (herror code)]
          exact ⟨rfl, rfl⟩
        · refine .inr (.inr ⟨toldOfRubric exercises attempt.exercise, fun code => ?_⟩)
          obtain ⟨report, hreport⟩ := hok code
          refine ⟨report, ?_⟩
          rw [hrun, htold, sit_of_ok hrefused hreport]
          exact ⟨rfl, rfl⟩

end Submit

section Session

variable {session : Session} {attempt : Attempt} {code : String} {inLog : Bool}

/-- What is told when a submission ends: its audit, if it is kept in the log, and its failure. -/
def toldOfEnding (attempt : Attempt) (inLog : Bool)
    (ending : Except SubmissionError SubmissionResult) : List Record :=
  (if inLog then [(AuditEntry.ofResult attempt ending).record] else []) ++
    match ending with
    | .error error => if error.isShown then [] else [failed attempt error]
    | .ok _ => []

lemma told_submit : told (session.submit attempt code inLog).records =
    told (beforeAudit attempt session.exercises session.ledger code) ++
      toldOfEnding attempt inLog (attempt.run session.exercises session.ledger code).1 := by
  let audit : List Record :=
    if inLog then [(attempt.submit session.exercises session.ledger code).entry.record] else []
  let after := afterAudit attempt session.exercises session.ledger code
  have haudit : told audit = audit := by
    unfold audit
    cases inLog <;> rfl
  have hafter : told after = after := by
    unfold after afterAudit
    cases (attempt.run session.exercises session.ledger code).1 with
    | error error =>
      dsimp only
      cases error.isShown <;> rfl
    | ok result => rfl
  change told (_ ++ audit ++ after) = _
  rw [told_append, told_append, haudit, hafter, List.append_assoc]
  rfl

lemma toldOfEnding_ok {result other : SubmissionResult} (hsuccess : result.success = other.success)
    (hscore : result.score = other.score) :
    toldOfEnding attempt inLog (.ok result) = toldOfEnding attempt inLog (.ok other) := by
  simp only [toldOfEnding, AuditEntry.ofResult, hsuccess, hscore]

/-- From the level of information on, submissions with the same marks leave the same records, and
those of a submission that fails are the same for every code, which then fails in the same way. -/
theorem told_eq_of_sameMarks (session : Session) (attempt : Attempt) (inLog : Bool) :
    let ending := fun code => (attempt.submit session.exercises session.ledger code).result
    let records := fun code => told (session.submit attempt code inLog).records
    (∀ code other, SameMarks (ending code) (ending other) → records code = records other) ∧
      ∀ code error, ending code = .error error →
        ∀ other, ending other = .error error ∧ records other = records code := by
  intro ending records
  simp only [ending, records, submit_result, told_submit]
  rcases told_cases attempt session.exercises session.ledger with
    ⟨error, before, hfails⟩ | hpractises | ⟨before, hevaluates⟩
  · have hrun := fun code => (hfails code).1
    have hbefore := fun code => (hfails code).2
    refine ⟨fun code other _ => ?_, fun code _ hending other => ⟨?_, ?_⟩⟩
    · rw [hrun, hrun, hbefore, hbefore]
    · rwa [hrun, ← hrun code]
    · rw [hrun, hrun, hbefore, hbefore]
  · refine ⟨fun code other hmarks => ?_, fun code error herror => ?_⟩
    · obtain ⟨outcome, hrun, hbefore⟩ := hpractises code
      obtain ⟨outcome', hrun', hbefore'⟩ := hpractises other
      rw [hrun, hrun'] at hmarks ⊢
      cases hmarks with
      | ok hsuccess hscore _ => rw [hbefore, hbefore', toldOfEnding_ok hsuccess hscore]
    · obtain ⟨outcome, hrun, -⟩ := hpractises code
      rw [hrun] at herror
      cases herror
  · refine ⟨fun code other hmarks => ?_, fun code error herror => ?_⟩
    · obtain ⟨report, hrun, hbefore⟩ := hevaluates code
      obtain ⟨report', hrun', hbefore'⟩ := hevaluates other
      rw [hrun, hrun'] at hmarks ⊢
      cases hmarks with
      | ok hsuccess hscore hpoints =>
        obtain ⟨hearned, hmax⟩ := hpoints report report' rfl rfl
        rw [hbefore, hbefore', toldOfEnding_ok hsuccess hscore, scored, scored, hearned, hmax]
    · obtain ⟨report, hrun, -⟩ := hevaluates code
      rw [hrun] at herror
      cases herror

lemma result_of_evaluate {exercises : Exercises} {ledger : Ledger} {report : Report}
    (config : ExerciseConfig) (hconfig : exercises.configOf attempt.exercise = .ok config)
    (hkind : config.kind = .evaluation) (hunused : ledger.has attempt = false)
    (heval : attempt.evaluate exercises code = .ok report) :
    (attempt.submit exercises ledger code).result = .ok (.evaluation report) := by
  have hadmitted : ¬ IsRefused ledger attempt config := by simp [IsRefused, hunused]
  rw [submit_result, run_of_evaluation ledger code hconfig hkind, sit_of_ok hadmitted heval]
  rfl

/-- Two codes that meet the one rule of an evaluation are told alike, and so are any two that are
submitted to an exercise that does not exist. -/
theorem told_eq_of_sameMarks_met :
    let session := withEvaluation ⟨"1", "a"⟩
    let attempt : Attempt := ⟨"u", ⟨"1", "a"⟩⟩
    let absent : Attempt := ⟨"u", ⟨"1", "b"⟩⟩
    let ending := fun (attempt : Attempt) code =>
      (attempt.submit session.exercises session.ledger code).result
    let records := fun attempt code => told (session.submit attempt code true).records
    (SameMarks (ending attempt "x") (ending attempt "y") ∧
        records attempt "x" = records attempt "y") ∧
      ending absent "x" = .error (.noExercise absent.exercise) ∧
        ending absent "y" = .error (.noExercise absent.exercise) ∧
        records absent "y" = records absent "x" := by
  intro session attempt absent ending records
  have hconfig : session.exercises.configOf attempt.exercise = .ok { kind := .evaluation } := by
    decide +kernel
  let report : Report := ⟨1, 1, [⟨"", true, 1, 1, "Correcto"⟩]⟩
  have hx : ending attempt "x" = .ok (.evaluation report) :=
    result_of_evaluate _ hconfig rfl (by decide +kernel) (by decide +kernel)
  have hy : ending attempt "y" = .ok (.evaluation report) :=
    result_of_evaluate _ hconfig rfl (by decide +kernel) (by decide +kernel)
  have hmarks : SameMarks (ending attempt "x") (ending attempt "y") := by
    rw [hx, hy]
    refine .ok rfl rfl fun first second hfirst hsecond => ?_
    cases hfirst
    cases hsecond
    exact ⟨rfl, rfl⟩
  have habsent : ending absent "x" = .error (.noExercise absent.exercise) :=
    submit_of_verdict (.noExercise (by unfold IsStored; decide +kernel))
  exact ⟨⟨hmarks, (told_eq_of_sameMarks session attempt true).1 _ _ hmarks⟩, habsent,
    (told_eq_of_sameMarks session absent true).2 _ _ habsent "y"⟩

end Session

end Autograder.Proofs
