import Autograder.Proofs.Exercise.Material
import Autograder.Proofs.Submission.Ledger

/-!
# The verdict on a submission

A submission goes through its stages in a fixed order, and the first one that fails decides what the
student sees: whether the exercise exists, its configuration, then the solution, or the ledger and
the rubric. The ledger is asked before the rubric is loaded.
-/

namespace Autograder.Proofs

variable {exercises : Exercises} {ledger : Ledger} {attempt : Attempt} {code : String}
  {config : ExerciseConfig}

def IsStored (exercises : Exercises) (id : ExerciseId) : Prop :=
  exercises.files.isDirectory (id.directory exercises.root) = true

/-- The rules of the stored rubric, all of which stand the check. -/
def HasCheckedRules (exercises : Exercises) (id : ExerciseId)
    (checked : List CheckedRule) : Prop :=
  ∃ rules, HasRules exercises id rules ∧ Rubric.check rules = .ok checked

/-- The rubric cannot be loaded, or the check refuses its rules. -/
inductive HasBrokenRubric (exercises : Exercises) (id : ExerciseId) : Prop where
  | unloadable (lacks : LacksRules exercises id)
  | refused {rules : List Rule} {fault : RubricFault} (loaded : HasRules exercises id rules)
      (check : Rubric.check rules = .error fault)

/-- What the student gets to see of a submission, by what is stored. -/
inductive Verdict (exercises : Exercises) (ledger : Ledger) (attempt : Attempt) (code : String) :
    Except SubmissionError SubmissionResult → Prop where
  | noExercise (absent : ¬ IsStored exercises attempt.exercise) :
      Verdict exercises ledger attempt code (.error (.noExercise attempt.exercise))
  | brokenConfig (stored : IsStored exercises attempt.exercise)
      (broken : HasBrokenConfig exercises attempt.exercise) :
      Verdict exercises ledger attempt code (.error .internal)
  | noSolution {config : ExerciseConfig} (stored : IsStored exercises attempt.exercise)
      (configured : HasConfig exercises attempt.exercise config) (kind : config.kind = .practice)
      (lacks : LacksSolution exercises attempt.exercise config) :
      Verdict exercises ledger attempt code (.error .internal)
  | practice {config : ExerciseConfig} {solution : String}
      (stored : IsStored exercises attempt.exercise)
      (configured : HasConfig exercises attempt.exercise config) (kind : config.kind = .practice)
      (solved : HasSolution exercises attempt.exercise config solution) :
      Verdict exercises ledger attempt code
        (.ok (.practice (grade code.toList solution.toList config.language)))
  | attemptUsed {config : ExerciseConfig} (stored : IsStored exercises attempt.exercise)
      (configured : HasConfig exercises attempt.exercise config) (kind : config.kind = .evaluation)
      (single : config.singleAttempt = true) (used : ledger.has attempt = true) :
      Verdict exercises ledger attempt code (.error .attemptUsed)
  | brokenRubric {config : ExerciseConfig} (stored : IsStored exercises attempt.exercise)
      (configured : HasConfig exercises attempt.exercise config) (kind : config.kind = .evaluation)
      (admitted : ¬ (config.singleAttempt = true ∧ ledger.has attempt = true))
      (broken : HasBrokenRubric exercises attempt.exercise) :
      Verdict exercises ledger attempt code (.error .internal)
  | evaluation {config : ExerciseConfig} {checked : List CheckedRule}
      (stored : IsStored exercises attempt.exercise)
      (configured : HasConfig exercises attempt.exercise config) (kind : config.kind = .evaluation)
      (admitted : ¬ (config.singleAttempt = true ∧ ledger.has attempt = true))
      (sound : HasCheckedRules exercises attempt.exercise checked) :
      Verdict exercises ledger attempt code
        (.ok (.evaluation (Rubric.report checked (Source.normalize code.toList))))

section Stages

lemma fetch_of_stored {α : Type} {id : ExerciseId} {part : ExerciseId → Except MaterialFault α}
    (h : IsStored exercises id) : exercises.fetch id part = (part id).mapError .badMaterial := by
  unfold IsStored at h
  simp [Exercises.fetch, Exercises.has, h]

lemma configOf_of_not_stored {id : ExerciseId} (h : ¬ IsStored exercises id) :
    exercises.configOf id = .error (.noExercise id) := by
  unfold IsStored at h
  simp [Exercises.configOf, Exercises.fetch, Exercises.has, h]

lemma configOf_of_hasConfig {id : ExerciseId} (hstored : IsStored exercises id)
    (h : HasConfig exercises id config) : exercises.configOf id = .ok config := by
  unfold Exercises.configOf
  rw [fetch_of_stored hstored, config_of_hasConfig h]
  rfl

lemma configOf_of_hasBrokenConfig {id : ExerciseId} (hstored : IsStored exercises id)
    (h : HasBrokenConfig exercises id) :
    ∃ fault, exercises.configOf id = .error (.badMaterial fault) := by
  obtain ⟨fault, hfault⟩ := config_of_hasBrokenConfig h
  unfold Exercises.configOf
  rw [fetch_of_stored hstored, hfault]
  exact ⟨fault, rfl⟩

/-- Practice loads the configuration once more, which gives the same one. -/
lemma solutionOf_eq {id : ExerciseId} (hstored : IsStored exercises id)
    (h : HasConfig exercises id config) :
    exercises.solutionOf id = (exercises.solution id config).mapError .badMaterial := by
  unfold Exercises.solutionOf
  rw [configOf_of_hasConfig hstored h]
  change exercises.fetch id (exercises.solution · config) = _
  exact fetch_of_stored hstored

lemma rulesOf_of_hasRules {id : ExerciseId} {rules : List Rule} (hstored : IsStored exercises id)
    (h : HasRules exercises id rules) : exercises.rulesOf id = .ok rules := by
  obtain ⟨file, hfile, rfl⟩ := rubric_of_hasRules h
  unfold Exercises.rulesOf
  rw [fetch_of_stored hstored, hfile]
  rfl

lemma rulesOf_of_lacksRules {id : ExerciseId} (hstored : IsStored exercises id)
    (h : LacksRules exercises id) :
    ∃ fault, exercises.rulesOf id = .error (.badMaterial fault) := by
  obtain ⟨fault, hfault⟩ := rubric_of_lacksRules h
  unfold Exercises.rulesOf
  rw [fetch_of_stored hstored, hfault]
  exact ⟨fault, rfl⟩

lemma evaluate_of_rules (code : String) {rules : List Rule}
    (h : exercises.rulesOf attempt.exercise = .ok rules) :
    attempt.evaluate exercises code =
      (Rubric.gradeBy rules code.toList).mapError .badRubric := by
  unfold Attempt.evaluate
  rw [h]
  rfl

lemma evaluate_of_checked (code : String) {checked : List CheckedRule}
    (hstored : IsStored exercises attempt.exercise)
    (h : HasCheckedRules exercises attempt.exercise checked) :
    attempt.evaluate exercises code =
      .ok (Rubric.report checked (Source.normalize code.toList)) := by
  obtain ⟨rules, hrules, hcheck⟩ := h
  rw [evaluate_of_rules code (rulesOf_of_hasRules hstored hrules), Rubric.gradeBy, hcheck]
  rfl

lemma evaluate_of_broken (code : String) (hstored : IsStored exercises attempt.exercise)
    (h : HasBrokenRubric exercises attempt.exercise) :
    ∃ error, attempt.evaluate exercises code = .error error ∧ error.shown = .internal := by
  cases h with
  | unloadable lacks =>
    obtain ⟨fault, hfault⟩ := rulesOf_of_lacksRules hstored lacks
    unfold Attempt.evaluate
    rw [hfault]
    exact ⟨.badMaterial fault, rfl, rfl⟩
  | @refused _ fault loaded check =>
    rw [evaluate_of_rules code (rulesOf_of_hasRules hstored loaded), Rubric.gradeBy, check]
    exact ⟨.badRubric fault, rfl, rfl⟩

end Stages

section Submit

lemma isRefused_iff (h : config.kind = .evaluation) :
    IsRefused ledger attempt config ↔
      config.singleAttempt = true ∧ ledger.has attempt = true := by
  simp [IsRefused, ExerciseConfig.enforcesSingleAttempt, h]

lemma submit_of_run {result : Except SubmissionError SubmissionResult} {after : Ledger}
    (h : attempt.run exercises ledger code = (result, after)) :
    (attempt.submit exercises ledger code).result = result.mapError SubmissionError.shown := by
  rw [submit_result, h]

lemma submit_of_verdict {result : Except SubmissionError SubmissionResult}
    (h : Verdict exercises ledger attempt code result) :
    (attempt.submit exercises ledger code).result = result := by
  cases h with
  | noExercise absent =>
    exact submit_of_run (run_of_configError (configOf_of_not_stored absent))
  | brokenConfig stored broken =>
    obtain ⟨fault, hfault⟩ := configOf_of_hasBrokenConfig stored broken
    exact submit_of_run (run_of_configError hfault)
  | noSolution stored configured kind lacks =>
    obtain ⟨fault, hfault⟩ := solution_of_lacksSolution lacks
    have hrun := run_of_practice ledger code
      (configOf_of_hasConfig stored configured) kind
    rw [submit_of_run hrun]
    simp [Attempt.practise, solutionOf_eq stored configured, hfault]
    rfl
  | practice stored configured kind solved =>
    have hrun := run_of_practice ledger code
      (configOf_of_hasConfig stored configured) kind
    rw [submit_of_run hrun]
    simp [Attempt.practise, solutionOf_eq stored configured, solution_of_hasSolution solved]
    rfl
  | attemptUsed stored configured kind single used =>
    have hrun := run_of_evaluation ledger code (configOf_of_hasConfig stored configured) kind
    rw [sit_of_refused ((isRefused_iff kind).mpr ⟨single, used⟩)] at hrun
    exact submit_of_run hrun
  | brokenRubric stored configured kind admitted broken =>
    obtain ⟨error, heval, hshown⟩ := evaluate_of_broken code stored broken
    have hrun := run_of_evaluation ledger code (configOf_of_hasConfig stored configured) kind
    rw [sit_of_error (mt (isRefused_iff kind).mp admitted) heval] at hrun
    rw [submit_of_run hrun]
    exact congrArg Except.error hshown
  | evaluation stored configured kind admitted sound =>
    have heval := evaluate_of_checked code stored sound
    have hrun := run_of_evaluation ledger code (configOf_of_hasConfig stored configured) kind
    rw [sit_of_ok (mt (isRefused_iff kind).mp admitted) heval] at hrun
    exact submit_of_run hrun

lemma exists_verdict (exercises : Exercises) (ledger : Ledger) (attempt : Attempt)
    (code : String) : ∃ result, Verdict exercises ledger attempt code result := by
  by_cases hstored : IsStored exercises attempt.exercise
  · rcases hasConfig_or_broken exercises attempt.exercise with ⟨config, hconfig⟩ | hbroken
    · cases hkind : config.kind with
      | practice =>
        rcases hasSolution_or_lacks exercises attempt.exercise config with
          ⟨solution, hsolution⟩ | hlacks
        · exact ⟨_, .practice hstored hconfig hkind hsolution⟩
        · exact ⟨_, .noSolution hstored hconfig hkind hlacks⟩
      | evaluation =>
        by_cases hrefused : config.singleAttempt = true ∧ ledger.has attempt = true
        · exact ⟨_, .attemptUsed hstored hconfig hkind hrefused.1 hrefused.2⟩
        · rcases hasRules_or_lacks exercises attempt.exercise with ⟨rules, hrules⟩ | hlacks
          · cases hcheck : Rubric.check rules with
            | error fault =>
              exact ⟨_, .brokenRubric hstored hconfig hkind hrefused (.refused hrules hcheck)⟩
            | ok checked =>
              exact ⟨_, .evaluation hstored hconfig hkind hrefused ⟨rules, hrules, hcheck⟩⟩
          · exact ⟨_, .brokenRubric hstored hconfig hkind hrefused (.unloadable hlacks)⟩
    · exact ⟨_, .brokenConfig hstored hbroken⟩
  · exact ⟨_, .noExercise hstored⟩

/-- A submission ends in exactly the verdict that the stored files and the ledger call for, and
faults of the material and the rubric are not shown. -/
theorem submit_result_iff_verdict (exercises : Exercises) (ledger : Ledger) (attempt : Attempt)
    (code : String) :
    (∀ result, (attempt.submit exercises ledger code).result = result ↔
      Verdict exercises ledger attempt code result) ∧
    ∀ error, (attempt.submit exercises ledger code).result = .error error →
      error.isShown = true := by
  obtain ⟨verdict, hverdict⟩ := exists_verdict exercises ledger attempt code
  refine ⟨fun result => ⟨fun h => ?_, submit_of_verdict⟩, fun error h => ?_⟩
  · rw [← h, submit_of_verdict hverdict]
    exact hverdict
  · rw [submit_of_verdict hverdict] at h
    subst h
    cases hverdict <;> rfl

end Submit

end Autograder.Proofs
