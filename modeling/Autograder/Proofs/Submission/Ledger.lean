import Mathlib.Tactic
import Autograder.Submission.Submit

/-!
# What a submission does to the ledger

The ledger is read through `has` alone. Recording enters one attempt, a reset takes one out, and a
submission either enters its own attempt, which happens exactly with the report of an evaluation, or
leaves the ledger as it found it. A claim that is given back leaves no trace, because it was only
granted where nothing stood before.
-/

namespace Autograder.Proofs

variable {ledger : Ledger} {attempt other : Attempt}

lemma has_iff_mem : ledger.has attempt = true ↔ attempt ∈ ledger.attempts := by
  simp [Ledger.has]

lemma has_record_iff :
    (ledger.record attempt).has other = true ↔ other = attempt ∨ ledger.has other = true := by
  unfold Ledger.record
  split_ifs with hused
  · constructor
    · exact .inr
    · rintro (rfl | h)
      · exact hused
      · exact h
  · simp [has_iff_mem]

lemma has_reset_iff :
    (ledger.reset attempt).has other = true ↔ other ≠ attempt ∧ ledger.has other = true := by
  simp only [has_iff_mem, Ledger.reset, List.mem_filter, bne_iff_ne]
  tauto

lemma not_has_empty : ¬ (({} : Ledger).has attempt = true) := by
  simp [has_iff_mem]

lemma reset_record (h : ¬ ledger.has attempt = true) :
    (ledger.record attempt).reset attempt = ledger := by
  have hfilter : ledger.attempts.filter (· != attempt) = ledger.attempts := by
    apply List.filter_eq_self.mpr
    intro other hmem
    rw [bne_iff_ne]
    rintro rfl
    exact h (has_iff_mem.mpr hmem)
  simp [Ledger.record, Ledger.reset, h, hfilter]

section Sit

variable {exercises : Exercises} {config : ExerciseConfig} {code : String}

/-- Whether the attempt is used up where only one is allowed. -/
def IsRefused (ledger : Ledger) (attempt : Attempt) (config : ExerciseConfig) : Prop :=
  config.enforcesSingleAttempt = true ∧ ledger.has attempt = true

lemma sit_of_refused (h : IsRefused ledger attempt config) :
    attempt.sit exercises ledger config code = (.error .attemptUsed, ledger) := by
  obtain ⟨henforced, hused⟩ := h
  simp [Attempt.sit, henforced, Ledger.claim?, hused]

lemma sit_of_error {error : SubmissionError} (h : ¬ IsRefused ledger attempt config)
    (heval : attempt.evaluate exercises code = .error error) :
    attempt.sit exercises ledger config code = (.error error, ledger) := by
  unfold Attempt.sit
  split_ifs with henforced
  · have hunused : ¬ ledger.has attempt = true := fun hused => h ⟨henforced, hused⟩
    simp [Ledger.claim?, hunused, heval, reset_record hunused]
  · simp [heval]

lemma sit_of_ok {report : Report} (h : ¬ IsRefused ledger attempt config)
    (heval : attempt.evaluate exercises code = .ok report) :
    attempt.sit exercises ledger config code = (.ok report, ledger.record attempt) := by
  unfold Attempt.sit
  split_ifs with henforced
  · have hunused : ¬ ledger.has attempt = true := fun hused => h ⟨henforced, hused⟩
    simp [Ledger.claim?, hunused, heval]
  · simp [heval]

end Sit

section Run

variable {exercises : Exercises} {code : String}

lemma run_of_configError {error : SubmissionError}
    (h : exercises.configOf attempt.exercise = .error error) :
    attempt.run exercises ledger code = (.error error, ledger) := by
  simp [Attempt.run, h]

lemma run_of_practice (ledger : Ledger) (code : String) {config : ExerciseConfig}
    (h : exercises.configOf attempt.exercise = .ok config) (hkind : config.kind = .practice) :
    attempt.run exercises ledger code =
      ((attempt.practise exercises config code).map .practice, ledger) := by
  simp [Attempt.run, h, hkind]

lemma run_of_evaluation (ledger : Ledger) (code : String) {config : ExerciseConfig}
    (h : exercises.configOf attempt.exercise = .ok config) (hkind : config.kind = .evaluation) :
    attempt.run exercises ledger code =
      ((attempt.sit exercises ledger config code).1.map .evaluation,
        (attempt.sit exercises ledger config code).2) := by
  simp [Attempt.run, h, hkind]

/-- All that a submission can do: end in a report and enter the attempt, which was not refused, or
end in anything else and leave the ledger alone. -/
theorem run_cases (attempt : Attempt) (exercises : Exercises) (ledger : Ledger) (code : String) :
    (∃ report config, exercises.configOf attempt.exercise = .ok config ∧
        ¬ IsRefused ledger attempt config ∧
        attempt.run exercises ledger code = (.ok (.evaluation report), ledger.record attempt)) ∨
      ∃ result, attempt.run exercises ledger code = (result, ledger) ∧
        ∀ report, result ≠ .ok (.evaluation report) := by
  cases hconfig : exercises.configOf attempt.exercise with
  | error error => exact .inr ⟨_, run_of_configError hconfig, by simp⟩
  | ok config =>
    cases hkind : config.kind with
    | practice =>
      refine .inr ⟨_, run_of_practice ledger code hconfig hkind, fun report h => ?_⟩
      cases hpractise : attempt.practise exercises config code with
      | error error => rw [hpractise] at h; cases h
      | ok outcome => rw [hpractise] at h; cases h
    | evaluation =>
      have hrun := run_of_evaluation ledger code hconfig hkind
      by_cases hrefused : IsRefused ledger attempt config
      · rw [sit_of_refused hrefused] at hrun
        exact .inr ⟨_, hrun, by simp [Except.map]⟩
      · cases heval : attempt.evaluate exercises code with
        | error error =>
          rw [sit_of_error hrefused heval] at hrun
          exact .inr ⟨_, hrun, by simp [Except.map]⟩
        | ok report =>
          rw [sit_of_ok hrefused heval] at hrun
          exact .inl ⟨report, config, rfl, hrefused, hrun⟩

lemma submit_result : (attempt.submit exercises ledger code).result =
    (attempt.run exercises ledger code).1.mapError SubmissionError.shown := rfl

lemma submit_ledger : (attempt.submit exercises ledger code).ledger =
    (attempt.run exercises ledger code).2 := rfl

lemma mapError_eq_ok_iff {ε ε' α : Type} {f : ε → ε'} {x : Except ε α} {a : α} :
    x.mapError f = .ok a ↔ x = .ok a := by
  cases x <;> simp [Except.mapError]

theorem ledger_of_evaluation {report : Report}
    (h : (attempt.submit exercises ledger code).result = .ok (.evaluation report)) :
    (attempt.submit exercises ledger code).ledger = ledger.record attempt ∧
      ∃ config, exercises.configOf attempt.exercise = .ok config ∧
        ¬ IsRefused ledger attempt config := by
  rw [submit_result, mapError_eq_ok_iff] at h
  rw [submit_ledger]
  rcases run_cases attempt exercises ledger code with
    ⟨_, config, hconfig, hrefused, hrun⟩ | ⟨result, hrun, hne⟩
  · rw [hrun]
    exact ⟨rfl, config, hconfig, hrefused⟩
  · rw [hrun] at h
    exact absurd h (hne report)

lemma evaluation_of_ok {config : ExerciseConfig} {result : SubmissionResult}
    (hconfig : exercises.configOf attempt.exercise = .ok config) (hkind : config.kind = .evaluation)
    (h : (attempt.submit exercises ledger code).result = .ok result) :
    ∃ report, result = .evaluation report := by
  rw [submit_result, mapError_eq_ok_iff, run_of_evaluation ledger code hconfig hkind] at h
  cases hsit : (attempt.sit exercises ledger config code).1 with
  | error error => simp [hsit, Except.map] at h
  | ok report => exact ⟨report, by simpa [hsit, Except.map] using h.symm⟩

theorem ledger_of_no_evaluation
    (h : ∀ report, (attempt.submit exercises ledger code).result ≠ .ok (.evaluation report)) :
    (attempt.submit exercises ledger code).ledger = ledger := by
  rw [submit_ledger]
  rcases run_cases attempt exercises ledger code with
    ⟨report, _, _, _, hrun⟩ | ⟨result, hrun, _⟩
  · exact absurd (by rw [submit_result, hrun]; rfl) (h report)
  · rw [hrun]

end Run

end Autograder.Proofs
