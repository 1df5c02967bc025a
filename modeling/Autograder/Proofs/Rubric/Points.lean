import Autograder.Grading.Score
import Autograder.Proofs.Number.Exact
import Autograder.Proofs.Text.Lines
import Autograder.Rubric.Derived

/-!
# Points of derived rubrics

A derived rubric is never empty and every criterion of it is worth something, so a share of its
points can be taken, as long as their sum fits 32 bits. All points are a hundred percent then, and
no points are none.
-/

namespace Autograder.Proofs

open Autograder.Text

lemma total_eq_sum (ns : List Nat) : Number.total ns = ns.sum := by
  induction ns with
  | nil => rfl
  | cons n rest ih => rw [Number.total, List.sum_cons, ih]

lemma total_map_le_total_map {α : Type} {f g : α → Nat} (h : ∀ x, f x ≤ g x) (xs : List α) :
    Number.total (xs.map f) ≤ Number.total (xs.map g) := by
  rw [total_eq_sum, total_eq_sum]
  exact List.sum_le_sum fun x _ => h x

lemma points_pos_of_criterion? {rule : LineRule} {line : List Char} {criterion : Criterion}
    (h : rule.criterion? line = some criterion) : 0 < criterion.points := by
  obtain ⟨label, -, rfl⟩ := Option.map_eq_some_iff.mp h
  cases rule <;> simp [LineRule.points]

lemma points_pos_of_lineCriterion? {line : List Char} {criterion : Criterion}
    (h : Rubric.lineCriterion? line = some criterion) : 0 < criterion.points := by
  obtain ⟨rule, -, hrule⟩ := List.exists_of_findSome?_eq_some h
  exact points_pos_of_criterion? hrule

lemma derive_ne_nil (solution : List Char) : Rubric.derive solution ≠ [] := by
  unfold Rubric.derive
  dsimp only
  split_ifs with hempty
  · simp [Rubric.generalCriteria]
  · simpa using hempty

lemma points_pos_of_mem_derive {solution : List Char} {criterion : Criterion}
    (h : criterion ∈ Rubric.derive solution) : 0 < criterion.points := by
  unfold Rubric.derive at h
  dsimp only at h
  split_ifs at h with hempty
  · simp only [Rubric.generalCriteria, List.mem_cons, List.not_mem_nil, or_false] at h
    rcases h with rfl | rfl | rfl <;> decide
  · obtain ⟨line, -, hline⟩ := List.mem_filterMap.mp h
    exact points_pos_of_lineCriterion? hline

theorem total_derive_pos (solution : List Char) :
    0 < Number.total ((Rubric.derive solution).map Criterion.points) := by
  rw [total_eq_sum]
  apply List.sum_pos
  · intro points hmem
    obtain ⟨criterion, hcriterion, rfl⟩ := List.mem_map.mp hmem
    exact points_pos_of_mem_derive hcriterion
  · simpa using derive_ne_nil solution

lemma points_le_of_lineCriterion? {line : List Char} {criterion : Criterion}
    (h : Rubric.lineCriterion? line = some criterion) : criterion.points ≤ 30 := by
  obtain ⟨rule, -, hrule⟩ := List.exists_of_findSome?_eq_some h
  obtain ⟨label, -, rfl⟩ := Option.map_eq_some_iff.mp hrule
  cases rule <;> simp [LineRule.points]

/-- Points grow at most with the lines of the solution, thirty for each. -/
theorem total_derive_le (solution : List Char) :
    Number.total ((Rubric.derive solution).map Criterion.points) ≤
      max 100 (30 * (lines solution).length) := by
  unfold Rubric.derive
  dsimp only
  split_ifs with hempty
  · exact le_max_left 100 _
  · have hlength : (Rubric.ownCriteria solution).length ≤ (lines solution).length :=
      List.length_filterMap_le _ _
    have htotal : Number.total ((Rubric.ownCriteria solution).map Criterion.points) ≤
        ((Rubric.ownCriteria solution).map Criterion.points).length • 30 := by
      rw [total_eq_sum]
      apply List.sum_le_card_nsmul
      intro points hmem
      obtain ⟨criterion, hcriterion, rfl⟩ := List.mem_map.mp hmem
      obtain ⟨line, -, hline⟩ := List.mem_filterMap.mp hcriterion
      exact points_le_of_lineCriterion? hline
    rw [List.length_map, smul_eq_mul] at htotal
    omega

/-- The solution has few enough lines for their points, thirty for each, to fit 32 bits. -/
def PointsFit (solution : List Char) : Prop :=
  (lines solution).length < 143165577

section PointsFit

variable {solution : List Char}

lemma pointsFit_of_length_lt (h : solution.length < 143165577) : PointsFit solution := by
  exact (length_lines_le solution).trans_lt h

lemma total_derive_lt (h : PointsFit solution) :
    Number.total ((Rubric.derive solution).map Criterion.points) < 2 ^ 32 := by
  have hle := total_derive_le solution
  unfold PointsFit at h
  omega

lemma totalPoints_derive_eq (h : PointsFit solution) : totalPoints (Rubric.derive solution) =
    Number.total ((Rubric.derive solution).map Criterion.points) :=
  Number.total32_eq_total (total_derive_lt h)

lemma totalPoints_derive_ne_zero (h : PointsFit solution) :
    totalPoints (Rubric.derive solution) ≠ 0 := by
  rw [totalPoints_derive_eq h]
  exact (total_derive_pos solution).ne'

end PointsFit

lemma criterion_map_ofCriterion (criteria : List Criterion) (met : Bool) :
    (criteria.map (Assessment.ofCriterion · met)).map Assessment.criterion = criteria := by
  simp [Assessment.ofCriterion, Function.comp_def]

lemma total32_awarded_ofCriterion (criteria : List Criterion) (met : Bool) :
    Number.total32 ((criteria.map (Assessment.ofCriterion · met)).map Assessment.awarded) =
      if met then totalPoints criteria else 0 := by
  cases met with
  | false =>
    rw [List.map_map]
    change Number.total (criteria.map fun _ => 0) % Nat.pow 2 32 = 0
    simp [total_eq_sum]
  | true => simp [Assessment.ofCriterion, totalPoints, Function.comp_def]

/-- Criteria that are all met earn a hundred percent and criteria of which none is met earn nothing,
also if their points are too many to be counted. -/
theorem ofRubric_map_ofCriterion (criteria : List Criterion) (met : Bool) :
    Score.ofRubric (criteria.map (Assessment.ofCriterion · met)) =
      if met = true ∧ totalPoints criteria ≠ 0 then 100.0 else 0.0 := by
  have hhundred : (100.0 : Float) = Float.ofNat 100 := by decide +kernel
  have hzero : (0.0 : Float) = Float.ofNat 0 := by decide +kernel
  have hproduct : Float.ofNat 100 * Float.ofNat 0 = Float.ofNat 0 := by decide +kernel
  have hlt : totalPoints criteria < 2 ^ 32 := Number.total32_lt _
  simp only [Score.ofRubric, criterion_map_ofCriterion, total32_awarded_ofCriterion, beq_iff_eq]
  by_cases htotal : totalPoints criteria = 0
  · simp [htotal]
  have hpos : 0 < totalPoints criteria := Nat.pos_of_ne_zero htotal
  cases met with
  | false =>
    simp only [htotal, if_false, Bool.false_eq_true, false_and]
    rw [hhundred, hproduct, zero_div_ofNat hpos (by omega), hzero]
  | true =>
    simp only [htotal, if_false, if_true, ne_eq, not_false_eq_true, and_self]
    rw [hhundred, ofNat_mul_ofNat (by omega) hpos (by omega),
      ofNat_mul_div_ofNat (by omega) hpos (by omega)]

end Autograder.Proofs
