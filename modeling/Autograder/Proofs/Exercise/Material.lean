import Mathlib.Tactic
import Autograder.Exercise.Material

/-!
# What the stored files say of an exercise

The loaders of exercise material against the files they read. A file counts as present unless
reading it says that nothing is there. A missing configuration stands for the one by default, a
missing solution passes the search on to the next language, and everything else that cannot be read
or parsed is a fault.
-/

namespace Autograder.Proofs

section Config

variable {exercises : Exercises} {id : ExerciseId} {config : ExerciseConfig}

/-- The configuration in force: the one that is stored, or the one by default. -/
inductive HasConfig (exercises : Exercises) (id : ExerciseId) : ExerciseConfig → Prop where
  | default (missing : exercises.files.readText (id.configFile exercises.root) = .error .missing) :
      HasConfig exercises id {}
  | stored {text : String} {config : ExerciseConfig}
      (read : exercises.files.readText (id.configFile exercises.root) = .ok text)
      (parsed : (Json.parse? text).bind ExerciseConfig.ofJson? = some config) :
      HasConfig exercises id config

/-- A configuration is there, but it cannot be read or parsed. -/
inductive HasBrokenConfig (exercises : Exercises) (id : ExerciseId) : Prop where
  | unreadable {error : Storage.FileError} (present : error ≠ .missing)
      (read : exercises.files.readText (id.configFile exercises.root) = .error error)
  | malformed {text : String}
      (read : exercises.files.readText (id.configFile exercises.root) = .ok text)
      (parsed : (Json.parse? text).bind ExerciseConfig.ofJson? = none)

lemma config_of_hasConfig (h : HasConfig exercises id config) :
    exercises.config id = .ok config := by
  unfold Exercises.config
  cases h with
  | default missing => rw [missing]
  | stored read parsed => simp only [read, parsed]

lemma config_of_hasBrokenConfig (h : HasBrokenConfig exercises id) :
    ∃ fault, exercises.config id = .error fault := by
  unfold Exercises.config
  cases h with
  | @unreadable error present read => exact ⟨.unreadableConfig error, by simp [read]⟩
  | malformed read parsed => exact ⟨.malformedConfig, by simp only [read, parsed]⟩

lemma hasConfig_or_broken (exercises : Exercises) (id : ExerciseId) :
    (∃ config, HasConfig exercises id config) ∨ HasBrokenConfig exercises id := by
  cases hread : exercises.files.readText (id.configFile exercises.root) with
  | error error =>
    by_cases hmissing : error = .missing
    · subst hmissing
      exact .inl ⟨_, .default hread⟩
    · exact .inr (.unreadable hmissing hread)
  | ok text =>
    cases hparsed : (Json.parse? text).bind ExerciseConfig.ofJson? with
    | none => exact .inr (.malformed hread hparsed)
    | some config => exact .inl ⟨config, .stored hread hparsed⟩

end Config

section Solution

variable {exercises : Exercises} {id : ExerciseId} {languages : List Language} {language : Language}

/-- The first of the languages that has a solution file, readable or not. -/
inductive FirstPresent (exercises : Exercises) (id : ExerciseId) :
    List Language → Language → Prop where
  | here {language : Language} {others : List Language}
      (present : exercises.files.readText (id.solutionFile exercises.root language) ≠
        .error .missing) :
      FirstPresent exercises id (language :: others) language
  | later {other language : Language} {others : List Language}
      (missing : exercises.files.readText (id.solutionFile exercises.root other) = .error .missing)
      (rest : FirstPresent exercises id others language) :
      FirstPresent exercises id (other :: others) language

/-- The languages in which a solution is looked for: only the one that the configuration names, or
else all. -/
def candidates (config : ExerciseConfig) : List Language :=
  match config.language with
  | some language => [language]
  | none => [.c, .pseint]

/-- The text of the first solution file that is there. -/
def HasSolution (exercises : Exercises) (id : ExerciseId) (config : ExerciseConfig)
    (solution : String) : Prop :=
  ∃ language, FirstPresent exercises id (candidates config) language ∧
    exercises.files.readText (id.solutionFile exercises.root language) = .ok solution

/-- No solution file is there, or the first one cannot be read. -/
inductive LacksSolution (exercises : Exercises) (id : ExerciseId) (config : ExerciseConfig) :
    Prop where
  | missing (missing : ∀ language ∈ candidates config,
      exercises.files.readText (id.solutionFile exercises.root language) = .error .missing)
  | unreadable {language : Language} {error : Storage.FileError}
      (first : FirstPresent exercises id (candidates config) language)
      (read : exercises.files.readText (id.solutionFile exercises.root language) = .error error)

lemma firstPresent_or_missing (languages : List Language) :
    (∃ language, FirstPresent exercises id languages language) ∨ ∀ language ∈ languages,
      exercises.files.readText (id.solutionFile exercises.root language) = .error .missing := by
  induction languages with
  | nil => exact .inr (by simp)
  | cons language others ih =>
    by_cases hmissing : exercises.files.readText (id.solutionFile exercises.root language) =
        .error .missing
    · rcases ih with ⟨found, hfound⟩ | hrest
      · exact .inl ⟨found, .later hmissing hfound⟩
      · exact .inr (List.forall_mem_cons.mpr ⟨hmissing, hrest⟩)
    · exact .inl ⟨language, .here hmissing⟩

lemma firstSolution_of_firstPresent (h : FirstPresent exercises id languages language) :
    exercises.firstSolution id languages =
      (exercises.files.readText (id.solutionFile exercises.root language)).mapError
        (.unreadableSolution (id.solutionFile exercises.root language)) := by
  induction h with
  | @here language others present =>
    unfold Exercises.firstSolution
    cases hread : exercises.files.readText (id.solutionFile exercises.root language) with
    | ok text => simp [hread, Except.mapError]
    | error error =>
      rw [hread] at present
      cases error <;> simp_all [Except.mapError]
  | later missing _ ih =>
    unfold Exercises.firstSolution
    simp only [missing, ih]

lemma firstSolution_of_missing (h : ∀ language ∈ languages,
    exercises.files.readText (id.solutionFile exercises.root language) = .error .missing) :
    exercises.firstSolution id languages = .error (.noSolution id) := by
  induction languages with
  | nil => rfl
  | cons language others ih =>
    obtain ⟨hmissing, hrest⟩ := List.forall_mem_cons.mp h
    unfold Exercises.firstSolution
    simp only [hmissing, ih hrest]

lemma solution_eq_firstSolution (config : ExerciseConfig) :
    exercises.solution id config = exercises.firstSolution id (candidates config) := by
  unfold Exercises.solution candidates
  cases config.language <;> rfl

lemma solution_of_hasSolution {config : ExerciseConfig} {solution : String}
    (h : HasSolution exercises id config solution) :
    exercises.solution id config = .ok solution := by
  obtain ⟨language, hfirst, hread⟩ := h
  rw [solution_eq_firstSolution, firstSolution_of_firstPresent hfirst, hread]
  rfl

lemma solution_of_lacksSolution {config : ExerciseConfig}
    (h : LacksSolution exercises id config) :
    ∃ fault, exercises.solution id config = .error fault := by
  rw [solution_eq_firstSolution]
  cases h with
  | missing missing => exact ⟨_, firstSolution_of_missing missing⟩
  | unreadable first read =>
    rw [firstSolution_of_firstPresent first, read]
    exact ⟨_, rfl⟩

lemma hasSolution_or_lacks (exercises : Exercises) (id : ExerciseId) (config : ExerciseConfig) :
    (∃ solution, HasSolution exercises id config solution) ∨ LacksSolution exercises id config := by
  rcases firstPresent_or_missing (candidates config) with ⟨language, hfirst⟩ | hmissing
  · cases hread : exercises.files.readText (id.solutionFile exercises.root language) with
    | ok solution => exact .inl ⟨solution, language, hfirst, hread⟩
    | error error => exact .inr (.unreadable hfirst hread)
  · exact .inr (.missing hmissing)

end Solution

section Rubric

variable {exercises : Exercises} {id : ExerciseId} {rules : List Rule}

inductive HasRules (exercises : Exercises) (id : ExerciseId) : List Rule → Prop where
  | stored {text : String} {file : RubricFile}
      (read : exercises.files.readText (id.rubricFile exercises.root) = .ok text)
      (parsed : (Json.parse? text).bind RubricFile.ofJson? = some file) :
      HasRules exercises id file.rules

/-- The rubric cannot be read or parsed; one that is missing cannot be read. -/
inductive LacksRules (exercises : Exercises) (id : ExerciseId) : Prop where
  | unreadable {error : Storage.FileError}
      (read : exercises.files.readText (id.rubricFile exercises.root) = .error error)
  | malformed {text : String}
      (read : exercises.files.readText (id.rubricFile exercises.root) = .ok text)
      (parsed : (Json.parse? text).bind RubricFile.ofJson? = none)

lemma rubric_of_hasRules (h : HasRules exercises id rules) :
    ∃ file, exercises.rubric id = .ok file ∧ file.rules = rules := by
  unfold Exercises.rubric
  cases h with
  | @stored text file read parsed => exact ⟨file.withTotal, by simp only [read, parsed], rfl⟩

lemma rubric_of_lacksRules (h : LacksRules exercises id) :
    ∃ fault, exercises.rubric id = .error fault := by
  unfold Exercises.rubric
  cases h with
  | @unreadable error read => exact ⟨.unreadableRubric error, by simp only [read]⟩
  | malformed read parsed => exact ⟨.malformedRubric, by simp only [read, parsed]⟩

lemma hasRules_or_lacks (exercises : Exercises) (id : ExerciseId) :
    (∃ rules, HasRules exercises id rules) ∨ LacksRules exercises id := by
  cases hread : exercises.files.readText (id.rubricFile exercises.root) with
  | error error => exact .inr (.unreadable hread)
  | ok text =>
    cases hparsed : (Json.parse? text).bind RubricFile.ofJson? with
    | none => exact .inr (.malformed hread hparsed)
    | some file => exact .inl ⟨file.rules, .stored hread hparsed⟩

end Rubric

end Autograder.Proofs
