import Autograder.Proofs.Grading.Outcomes
import Autograder.Proofs.Number.Order
import Autograder.Proofs.Number.Quotient

/-!
# Outcomes under any strategy

Whatever compares a submission with the solution and whatever words the feedback, an outcome is of
one of two kinds. It stops at faults, and then no comparison has any say in it; or all its numbers
follow from the comparison. In the standard wording, the headline, the recommendations and the
summary all say the same about passing as the outcome itself, unless the similarity is not a number.
-/

namespace Autograder.Proofs

open Autograder.Check Autograder.Number Autograder.Source

/-- The submission has faults, and nothing else was looked at. -/
structure StopsAtFaults (outcome : Outcome) : Prop where
  stage : outcome.stage = .faulty
  faults : outcome.details.faults ≠ []
  score : outcome.score = 0
  success : outcome.success = false
  rubric : outcome.rubric = []
  similarity : outcome.similarity = none
  comparison : outcome.details.comparison = none

/-- The submission has no faults, and its scores follow from a comparison: one matching line meets
all criteria of the solution. -/
structure FollowsComparison (solution : List Char) (compared : Comparison) (outcome : Outcome) :
    Prop where
  stage : outcome.stage = .scored
  faults : outcome.details.faults = []
  similarity : outcome.similarity = some compared.similarity
  comparison : outcome.details.comparison = some compared
  criteria : outcome.rubric.map Assessment.criterion = Rubric.derive solution
  satisfied : ∀ assessment ∈ outcome.rubric, assessment.satisfied = !compared.matched.isEmpty
  awarded : ∀ assessment ∈ outcome.rubric, assessment.awarded =
    if assessment.satisfied then assessment.criterion.points else 0
  /-- Points that come to nothing, where they are counted, earn nothing. -/
  rubricScore : outcome.details.rubricScore =
    if compared.matched ≠ [] ∧ totalPoints (Rubric.derive solution) ≠ 0 then 100.0 else 0.0
  rubricScore_of_fit : PointsFit solution →
    outcome.details.rubricScore = if compared.matched = [] then 0.0 else 100.0
  score : outcome.score = Score.final compared.similarity outcome.details.rubricScore
  score_le : outcome.score ≤ 100
  success : outcome.success = true ↔ 70.0 ≤ compared.similarity

/-- The headlines of the bands in which submissions pass. -/
def passingHeadlines : List String :=
  ["🎉 ¡Excelente! Tu código es prácticamente idéntico a la solución esperada.",
   "👍 ¡Muy bien! La estructura de tu código es correcta."]

/-- All that the student reads agrees on whether the submission passes. -/
structure SpeaksWithOneVoice (outcome : Outcome) : Prop where
  recommendations : outcome.recommendations = [] ↔ outcome.success = true
  headline : (∃ headline ∈ passingHeadlines, outcome.feedback.head? = some headline) ↔
    outcome.success = true
  summary : "Aprobado".toList <:+: outcome.summary.toList ↔ outcome.success = true

section Bands

variable {x : Float}

lemma passes_iff : Score.passes x = true ↔ 70.0 ≤ x :=
  decide_eq_true_iff

lemma not_lt_of_passes {mark : Float} (hx : x.isNaN = false) (hmark : mark.isNaN = false)
    (hle : mark ≤ 70.0) (hpass : 70.0 ≤ x) : ¬ x < mark := by
  have hseventy : (70.0 : Float).isNaN = false := by decide +kernel
  rw [float_lt_iff_not_le hx hmark, not_not]
  exact float_le_trans hmark hseventy hx hle hpass

lemma recommendations_eq_nil_iff (hx : x.isNaN = false) :
    Feedback.recommendations x = [] ↔ 70.0 ≤ x := by
  have hseventy : (70.0 : Float).isNaN = false := by decide +kernel
  constructor
  · intro hnil
    by_contra hfail
    have hlt : x < 70.0 := (float_lt_iff_not_le hx hseventy).mpr hfail
    unfold Feedback.recommendations at hnil
    split_ifs at hnil
  · intro hpass
    have hthirty := not_lt_of_passes hx (by decide +kernel) (by decide +kernel : 30.0 ≤ 70.0) hpass
    have hfifty := not_lt_of_passes hx (by decide +kernel) (by decide +kernel : 50.0 ≤ 70.0) hpass
    have hmark := not_lt_of_passes hx hseventy (by decide +kernel) hpass
    rw [Feedback.recommendations, if_neg hthirty, if_neg hfifty, if_neg hmark]

lemma headline_mem_passingHeadlines_iff (hx : x.isNaN = false) :
    Feedback.headline x ∈ passingHeadlines ↔ 70.0 ≤ x := by
  have hseventy : (70.0 : Float).isNaN = false := by decide +kernel
  have hninety : (90.0 : Float).isNaN = false := by decide +kernel
  unfold Feedback.headline
  split_ifs with htop hpass
  · have : (70.0 : Float) ≤ x :=
      float_le_trans hseventy hninety hx (by decide +kernel) htop
    simp [passingHeadlines, this]
  · simp [passingHeadlines, hpass]
  · simp [passingHeadlines, hpass]
  · simp [passingHeadlines, hpass]

end Bands

section Summary

lemma capitalA_notMem_toString (n : Nat) : 'A' ∉ (toString n).toList := by
  intro hmem
  rw [Nat.toString_eq_repr, Nat.repr, String.toList_ofList] at hmem
  have := Nat.isDigit_of_mem_toDigits (by norm_num) (by norm_num) hmem
  revert this
  decide

lemma capitalA_notMem_onePlace (x : Float) : 'A' ∉ (onePlace x).toList := by
  unfold onePlace
  split
  · decide
  · split_ifs <;> decide
  · simp only [String.toList_append, List.mem_append, not_or]
    refine ⟨⟨⟨?_, capitalA_notMem_toString _⟩, by decide⟩, capitalA_notMem_toString _⟩
    split_ifs <;> decide

lemma toList_scoreSummary (score : Nat) (x : Float) (passed : Bool) :
    (Feedback.scoreSummary score x passed).toList = ("Puntuación: " ++ toString score ++
      "/100 · Similitud: " ++ onePlace x ++ "% · ").toList ++
        (if passed then "Aprobado" else "No aprobado").toList :=
  String.toList_append

/-- The summary names a pass exactly for those who pass; a fail is named in small letters. -/
lemma aprobado_infix_scoreSummary_iff (score : Nat) (x : Float) (passed : Bool) :
    "Aprobado".toList <:+: (Feedback.scoreSummary score x passed).toList ↔ passed = true := by
  cases passed with
  | true =>
    simp only [toList_scoreSummary, if_true, iff_true]
    exact (List.suffix_append _ _).isInfix
  | false =>
    simp only [toList_scoreSummary, Bool.false_eq_true, if_false, iff_false, String.toList_append]
    intro hinfix
    have hmem : 'A' ∈ "Aprobado".toList := by decide
    have := hinfix.subset hmem
    simp only [List.mem_append, capitalA_notMem_toString, capitalA_notMem_onePlace] at this
    revert this
    decide

end Summary

section Grade

variable {student solution : List Char} {language : Option Language} {strategy : GradingStrategy}

lemma final_le_hundred (similarity rubricScore : Float) :
    Score.final similarity rubricScore ≤ 100 :=
  roundClamped_le 100 _

lemma stopsAtFaults_grade (h : findingsOf student language ≠ []) :
    StopsAtFaults (grade student solution language strategy) := by
  rw [grade_eq_ofFaults solution strategy h]
  exact ⟨rfl, by simpa [Outcome.ofFaults] using h, rfl, rfl, rfl, rfl, rfl⟩

lemma grade_congr_compare (h : findingsOf student language ≠ [])
    (compare : List Char → List Char → Comparison) :
    grade student solution language { strategy with compare } =
      grade student solution language strategy := by
  rw [grade_eq_ofFaults solution _ h, grade_eq_ofFaults solution _ h]

lemma followsComparison_ofComparison (style : FeedbackStyle) (language : Language)
    (compared : Comparison) :
    FollowsComparison solution compared (.ofComparison style language compared
      (Rubric.assess (Rubric.derive solution) (some compared))) := by
  have hassess : Rubric.assess (Rubric.derive solution) (some compared) =
      (Rubric.derive solution).map (.ofCriterion · (!compared.matched.isEmpty)) := rfl
  have hrubric : (Outcome.ofComparison style language compared
      (Rubric.assess (Rubric.derive solution) (some compared))).details.rubricScore =
        if compared.matched ≠ [] ∧ totalPoints (Rubric.derive solution) ≠ 0 then 100.0 else 0.0 := by
    simp only [Outcome.ofComparison, hassess, ofRubric_map_ofCriterion, Bool.not_eq_true',
      List.isEmpty_eq_false_iff]
  refine ⟨rfl, rfl, rfl, rfl, ?_, ?_, ?_, hrubric, fun hfit => ?_, rfl, final_le_hundred _ _,
    passes_iff⟩
  · rw [hassess]
    exact criterion_map_ofCriterion _ _
  · intro assessment hmem
    obtain ⟨criterion, -, rfl⟩ := List.mem_map.mp (hassess ▸ hmem)
    rfl
  · intro assessment hmem
    obtain ⟨criterion, -, rfl⟩ := List.mem_map.mp (hassess ▸ hmem)
    rfl
  · rw [hrubric]
    simp only [totalPoints_derive_ne_zero hfit, ne_eq, not_false_eq_true, and_true, ite_not]

lemma head?_messages (compared : Comparison) (assessments : List Assessment) :
    (Feedback.messages compared assessments).head? =
      some (Feedback.headline compared.similarity) := rfl

lemma speaksWithOneVoice_ofComparison (language : Language) (compared : Comparison)
    (assessments : List Assessment) (h : compared.similarity.isNaN = false) :
    SpeaksWithOneVoice (.ofComparison Feedback.standard language compared assessments) := by
  have hsuccess : (Outcome.ofComparison Feedback.standard language compared assessments).success =
      true ↔ 70.0 ≤ compared.similarity := passes_iff
  refine ⟨?_, ?_, aprobado_infix_scoreSummary_iff _ _ _⟩
  · rw [hsuccess]
    exact recommendations_eq_nil_iff h
  · rw [hsuccess, ← headline_mem_passingHeadlines_iff h]
    constructor
    · rintro ⟨headline, hmem, hhead⟩
      rwa [← Option.some.inj ((head?_messages compared assessments).symm.trans hhead)] at hmem
    · exact fun hmem => ⟨_, hmem, head?_messages compared assessments⟩

/-- Under any strategy, grading stops at the faults of a submission and no comparison can change the
outcome; or there are none and the outcome follows from the comparison. In the standard wording, all
that the student reads then agrees on whether the submission passes, if the similarity is a
number. -/
theorem grade_stops_or_follows (student solution : List Char) (language : Option Language)
    (strategy : GradingStrategy) :
    let outcome := grade student solution language strategy
    let compared := strategy.compare (normalize student) (normalize solution)
    (findingsOf student language ≠ [] ∧ StopsAtFaults outcome ∧
      ∀ compare, grade student solution language { strategy with compare } = outcome) ∨
    (findingsOf student language = [] ∧ FollowsComparison solution compared outcome ∧
      (strategy.style = Feedback.standard → compared.similarity.isNaN = false →
        SpeaksWithOneVoice outcome)) := by
  intro outcome compared
  by_cases hfindings : findingsOf student language = []
  · have houtcome : outcome = .ofComparison strategy.style _ compared _ :=
      grade_eq_ofComparison solution strategy hfindings
    refine .inr ⟨hfindings, ?_, fun hstyle hnumber => ?_⟩
    · rw [houtcome]
      exact followsComparison_ofComparison _ _ _
    · rw [houtcome, hstyle]
      exact speaksWithOneVoice_ofComparison _ _ _ hnumber
  · exact .inl ⟨hfindings, stopsAtFaults_grade hfindings, grade_congr_compare hfindings⟩

/-- Even an infinite similarity is a number: the score stays at a hundred, and a single matching
line earns all points. -/
theorem grade_stops_or_follows_infinite :
    let strategy : GradingStrategy := { compare := fun _ _ => ⟨1.0 / 0.0, [⟨1, ""⟩], []⟩ }
    let outcome := grade "int a;".toList "int b = 2;".toList none strategy
    PointsFit "int b = 2;".toList ∧
      (1.0 / 0.0 : Float).isNaN = false ∧ outcome.details.rubricScore = 100.0 ∧
      outcome.score ≤ 100 ∧ SpeaksWithOneVoice outcome := by
  intro strategy outcome
  have hfit : PointsFit "int b = 2;".toList := pointsFit_of_length_lt (by decide)
  have hnumber : (1.0 / 0.0 : Float).isNaN = false := by decide +kernel
  have hfindings : findingsOf "int a;".toList none = [] := by decide +kernel
  obtain ⟨hfaulty, -⟩ | ⟨-, hfollows, hvoice⟩ :=
    grade_stops_or_follows "int a;".toList "int b = 2;".toList none strategy
  · exact absurd hfindings hfaulty
  · exact ⟨hfit, hnumber, hfollows.rubricScore_of_fit hfit, hfollows.score_le,
      hvoice rfl hnumber⟩

end Grade

end Autograder.Proofs
