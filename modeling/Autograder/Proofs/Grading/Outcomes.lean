import Autograder.Grading.Outcome
import Autograder.Proofs.Comparison
import Autograder.Proofs.Rubric.Points
import Autograder.Proofs.Source.NormalForm

/-!
# The three outcomes of grading

With the standard comparison and the standard wording a submission is rejected, gets full marks or
gets none. Normal forms are single lines, so the comparison is one of whole texts, and the marks
follow from it without any rounding. The points of a solution are counted in 32 bits, which matters
only where its lines are too many for that.
-/

namespace Autograder.Proofs

open Autograder.Check Autograder.Source

/-- Grading stopped at the faults of the submission. -/
structure IsRejected (outcome : Outcome) : Prop where
  stage : outcome.stage = .faulty
  score : outcome.score = 0
  success : outcome.success = false
  similarity : outcome.similarity = none
  rubric : outcome.rubric = []
  comparison : outcome.details.comparison = none

/-- Every criterion of the solution is met and nothing is left to recommend. -/
structure HasFullMarks (solution : List Char) (outcome : Outcome) : Prop where
  stage : outcome.stage = .scored
  similarity : outcome.similarity = some 100.0
  rubric : outcome.rubric = (Rubric.derive solution).map (.ofCriterion · true)
  rubricScore : outcome.details.rubricScore = 100.0
  score : outcome.score = 100
  success : outcome.success = true
  recommendations : outcome.recommendations = []

/-- No criterion of the solution is met. -/
structure HasNoMarks (solution : List Char) (outcome : Outcome) : Prop where
  stage : outcome.stage = .scored
  similarity : outcome.similarity = some 0.0
  rubric : outcome.rubric = (Rubric.derive solution).map (.ofCriterion · false)
  rubricScore : outcome.details.rubricScore = 0.0
  score : outcome.score = 0
  success : outcome.success = false

lemma not_hasFullMarks_of_isRejected {solution : List Char} {outcome : Outcome}
    (h : IsRejected outcome) : ¬ HasFullMarks solution outcome := by
  intro hfull
  have := h.stage.symm.trans hfull.stage
  cases this

lemma not_hasNoMarks_of_isRejected {solution : List Char} {outcome : Outcome}
    (h : IsRejected outcome) : ¬ HasNoMarks solution outcome := by
  intro hnone
  have := h.stage.symm.trans hnone.stage
  cases this

lemma not_hasNoMarks_of_hasFullMarks {solution : List Char} {outcome : Outcome}
    (h : HasFullMarks solution outcome) : ¬ HasNoMarks solution outcome := by
  intro hnone
  have := h.score.symm.trans hnone.score
  omega

section Grade

variable (student solution : List Char) (language : Option Language)

/-- What the check of the given or detected language finds in a submission. -/
def findingsOf : List Finding :=
  (language.getD (Language.detect student)).check student

/-- The normal forms of two texts agree and show some code. -/
def SameCode : Prop :=
  normalize student = normalize solution ∧ normalize student ≠ []

variable {student solution language}

lemma grade_eq_ofFaults (solution : List Char) (strategy : GradingStrategy)
    (h : findingsOf student language ≠ []) :
    grade student solution language strategy =
      .ofFaults strategy.style (language.getD (Language.detect student))
        ((findingsOf student language).map Finding.fault) := by
  unfold findingsOf at h ⊢
  unfold grade
  dsimp only
  split
  · next hnil => exact absurd hnil h
  · rfl

lemma grade_eq_ofComparison (solution : List Char) (strategy : GradingStrategy)
    (h : findingsOf student language = []) :
    grade student solution language strategy =
      .ofComparison strategy.style (language.getD (Language.detect student))
        (strategy.compare (normalize student) (normalize solution))
        (Rubric.assess (Rubric.derive solution)
          (some (strategy.compare (normalize student) (normalize solution)))) := by
  unfold findingsOf at h
  unfold grade
  simp only [h]

lemma isRejected_grade (h : findingsOf student language ≠ []) :
    IsRejected (grade student solution language) := by
  rw [grade_eq_ofFaults solution {} h]
  exact ⟨rfl, rfl, rfl, rfl, rfl, rfl⟩

lemma grade_of_accepted (h : findingsOf student language = []) {comparison : Comparison}
    (hcompare : Comparison.ofTexts (normalize student) (normalize solution) = comparison) :
    grade student solution language =
      .ofComparison Feedback.standard (language.getD (Language.detect student)) comparison
        (Rubric.assess (Rubric.derive solution) (some comparison)) := by
  rw [grade_eq_ofComparison solution {} h]
  simp only [hcompare]

lemma ofTexts_normalize_of_sameCode (hsame : SameCode student solution) :
    Comparison.ofTexts (normalize student) (normalize solution) =
      ⟨100.0, [⟨1, String.ofList (normalize student)⟩], []⟩ := by
  obtain ⟨heq, hne⟩ := hsame
  rw [← heq]
  exact ofTexts_self (newline_notMem_normalize student) hne

lemma grade_of_sameCode (h : findingsOf student language = []) (hsame : SameCode student solution) :
    grade student solution language = .ofComparison Feedback.standard
      (language.getD (Language.detect student)) ⟨100.0, [⟨1, String.ofList (normalize student)⟩], []⟩
      ((Rubric.derive solution).map (.ofCriterion · true)) :=
  grade_of_accepted h (ofTexts_normalize_of_sameCode hsame)

lemma hasFullMarks_grade (h : findingsOf student language = []) (hsame : SameCode student solution)
    (hpoints : totalPoints (Rubric.derive solution) ≠ 0) :
    HasFullMarks solution (grade student solution language) := by
  have hrubric : Score.ofRubric ((Rubric.derive solution).map (.ofCriterion · true)) = 100.0 := by
    rw [ofRubric_map_ofCriterion, if_pos ⟨rfl, hpoints⟩]
  have hfinal : Score.final 100.0 100.0 = 100 := by decide +kernel
  have hpasses : Score.passes 100.0 = true := by decide +kernel
  have hrecommend : Feedback.recommendations 100.0 = [] := by decide +kernel
  rw [grade_of_sameCode h hsame]
  exact ⟨rfl, rfl, rfl, hrubric, by simp only [Outcome.ofComparison, hrubric, hfinal],
    by simp only [Outcome.ofComparison, hpasses],
    by simp only [Outcome.ofComparison, Feedback.standard, hrecommend]⟩

/-- The same code as a solution whose points come to nothing passes, but not with full marks. -/
lemma not_marks_of_uncounted (h : findingsOf student language = [])
    (hsame : SameCode student solution) (hpoints : totalPoints (Rubric.derive solution) = 0) :
    ¬ HasFullMarks solution (grade student solution language) ∧
      ¬ HasNoMarks solution (grade student solution language) := by
  have hrubric : Score.ofRubric ((Rubric.derive solution).map (.ofCriterion · true)) = 0.0 := by
    rw [ofRubric_map_ofCriterion, if_neg fun hmet => hmet.2 hpoints]
  have hfinal : Score.final 100.0 0.0 = 60 := by decide +kernel
  have hpasses : Score.passes 100.0 = true := by decide +kernel
  rw [grade_of_sameCode h hsame]
  constructor
  · intro hfull
    have hscore := hfull.score
    simp only [Outcome.ofComparison, hrubric, hfinal] at hscore
    omega
  · intro hnone
    have hsuccess := hnone.success
    simp only [Outcome.ofComparison, hpasses] at hsuccess
    cases hsuccess

lemma ofTexts_normalize_of_not_sameCode (hdiffer : ¬ SameCode student solution) :
    ∃ diffs, Comparison.ofTexts (normalize student) (normalize solution) = ⟨0.0, [], diffs⟩ := by
  by_cases heq : normalize student = normalize solution
  · have hnil : normalize student = [] := by
      by_contra hne
      exact hdiffer ⟨heq, hne⟩
    rw [← heq, hnil]
    exact ⟨_, ofTexts_nil_nil⟩
  · exact ⟨_, ofTexts_of_ne (newline_notMem_normalize student)
      (newline_notMem_normalize solution) heq⟩

lemma hasNoMarks_grade (h : findingsOf student language = [])
    (hdiffer : ¬ SameCode student solution) :
    HasNoMarks solution (grade student solution language) := by
  obtain ⟨diffs, hcompare⟩ := ofTexts_normalize_of_not_sameCode hdiffer
  have hassess : Rubric.assess (Rubric.derive solution) (some ⟨0.0, [], diffs⟩) =
      (Rubric.derive solution).map (.ofCriterion · false) := rfl
  have hrubric : Score.ofRubric ((Rubric.derive solution).map (.ofCriterion · false)) = 0.0 := by
    rw [ofRubric_map_ofCriterion, if_neg (by simp)]
  have hfinal : Score.final 0.0 0.0 = 0 := by decide +kernel
  have hpasses : Score.passes 0.0 = false := by decide +kernel
  rw [grade_of_accepted h hcompare, hassess]
  exact ⟨rfl, rfl, rfl, hrubric, by simp only [Outcome.ofComparison, hrubric, hfinal],
    by simp only [Outcome.ofComparison, hpasses]⟩

lemma isRejected_grade_iff (student solution : List Char) (language : Option Language) :
    IsRejected (grade student solution language) ↔ findingsOf student language ≠ [] := by
  refine ⟨fun h hnil => ?_, isRejected_grade⟩
  have hcomparison := h.comparison
  rw [grade_of_accepted hnil rfl] at hcomparison
  cases hcomparison

lemma hasFullMarks_grade_iff (student solution : List Char) (language : Option Language) :
    HasFullMarks solution (grade student solution language) ↔ findingsOf student language = [] ∧
      SameCode student solution ∧ totalPoints (Rubric.derive solution) ≠ 0 := by
  refine ⟨fun h => ?_, fun ⟨hnil, hsame, hpoints⟩ => hasFullMarks_grade hnil hsame hpoints⟩
  have hnil : findingsOf student language = [] := by
    by_contra hfaulty
    exact not_hasFullMarks_of_isRejected (isRejected_grade hfaulty) h
  have hsame : SameCode student solution := by
    by_contra hdiffer
    exact not_hasNoMarks_of_hasFullMarks h (hasNoMarks_grade hnil hdiffer)
  exact ⟨hnil, hsame, fun hpoints => (not_marks_of_uncounted hnil hsame hpoints).1 h⟩

lemma hasNoMarks_grade_iff (student solution : List Char) (language : Option Language) :
    HasNoMarks solution (grade student solution language) ↔
      findingsOf student language = [] ∧ ¬ SameCode student solution := by
  refine ⟨fun h => ?_, fun ⟨hnil, hdiffer⟩ => hasNoMarks_grade hnil hdiffer⟩
  have hnil : findingsOf student language = [] := by
    by_contra hfaulty
    exact not_hasNoMarks_of_isRejected (isRejected_grade hfaulty) h
  refine ⟨hnil, fun hsame => ?_⟩
  by_cases hpoints : totalPoints (Rubric.derive solution) = 0
  · exact (not_marks_of_uncounted hnil hsame hpoints).2 h
  · exact not_hasNoMarks_of_hasFullMarks (hasFullMarks_grade hnil hsame hpoints) h

lemma score_grade_eq (student solution : List Char) (language : Option Language) :
    (grade student solution language).score = 0 ∨ (grade student solution language).score = 100 ∨
      totalPoints (Rubric.derive solution) = 0 := by
  by_cases hnil : findingsOf student language = []
  · by_cases hsame : SameCode student solution
    · by_cases hpoints : totalPoints (Rubric.derive solution) = 0
      · exact .inr (.inr hpoints)
      · exact .inr (.inl (hasFullMarks_grade hnil hsame hpoints).score)
    · exact .inl (hasNoMarks_grade hnil hsame).score
  · exact .inl (isRejected_grade hnil).score

/-- A submission is rejected exactly if the check finds something. Otherwise it gets full marks
exactly if it is the same code as the solution, and no marks if it is not: scores between are out
of reach, and texts without any code are never the same. For full marks the points of the solution
must not come to nothing where they are counted, which they never do as long as they fit. -/
theorem grade_has_three_outcomes (student solution : List Char) (language : Option Language) :
    let outcome := grade student solution language
    (IsRejected outcome ↔ findingsOf student language ≠ []) ∧
    (HasFullMarks solution outcome ↔ findingsOf student language = [] ∧
      SameCode student solution ∧ totalPoints (Rubric.derive solution) ≠ 0) ∧
    (HasNoMarks solution outcome ↔
      findingsOf student language = [] ∧ ¬ SameCode student solution) ∧
    (outcome.score = 0 ∨ outcome.score = 100 ∨ totalPoints (Rubric.derive solution) = 0) ∧
    (normalize student = [] → normalize solution = [] → outcome.score = 0) ∧
    (PointsFit solution →
      (HasFullMarks solution outcome ↔
        findingsOf student language = [] ∧ SameCode student solution) ∧
      (outcome.score = 0 ∨ outcome.score = 100)) := by
  intro outcome
  have hfull := hasFullMarks_grade_iff student solution language
  have hscore := score_grade_eq student solution language
  refine ⟨isRejected_grade_iff student solution language, hfull,
    hasNoMarks_grade_iff student solution language, hscore, fun hempty _ => ?_, fun hfit => ?_⟩
  · by_cases hnil : findingsOf student language = []
    · exact (hasNoMarks_grade hnil fun hsame => hsame.2 hempty).score
    · exact (isRejected_grade hnil).score
  · have hpoints := totalPoints_derive_ne_zero hfit
    refine ⟨by simpa [hpoints] using hfull, ?_⟩
    simpa [hpoints] using hscore

/-- Comments, blanks and letter case do not cost any marks. -/
theorem grade_has_three_outcomes_commented :
    PointsFit "int a = 1;".toList ∧
      HasFullMarks "int a = 1;".toList
        (grade "int  A = 1; /* uno */\n// dos".toList "int a = 1;".toList) ∧
      normalize "/* uno */".toList = [] ∧ normalize "// dos".toList = [] ∧
      (grade "/* uno */".toList "// dos".toList).score = 0 := by
  have hfit : PointsFit "int a = 1;".toList := pointsFit_of_length_lt (by decide)
  have hsame : SameCode "int  A = 1; /* uno */\n// dos".toList "int a = 1;".toList :=
    ⟨by decide +kernel, by decide +kernel⟩
  have hsilent : normalize "/* uno */".toList = [] ∧ normalize "// dos".toList = [] :=
    ⟨by decide +kernel, by decide +kernel⟩
  obtain ⟨-, -, -, -, -, hcounted⟩ :=
    grade_has_three_outcomes "int  A = 1; /* uno */\n// dos".toList "int a = 1;".toList none
  obtain ⟨-, -, -, -, hempty, -⟩ :=
    grade_has_three_outcomes "/* uno */".toList "// dos".toList none
  exact ⟨hfit, (hcounted hfit).1.mpr ⟨by decide +kernel, hsame⟩, hsilent.1, hsilent.2,
    hempty hsilent.1 hsilent.2⟩

end Grade

end Autograder.Proofs
