import Autograder.Proofs.Number.Order
import Autograder.Proofs.Number.Quotient
import Autograder.Proofs.Rubric.Points
import Autograder.Rubric.Authored
import Autograder.Submission.Result

/-!
# Percentages of reports

The percentage of a report is the exact share of the points, rounded half up. A report never awards
more points than there are, so its percentage is at most a hundred. An evaluation passes from
seventy on.
-/

namespace Autograder.Proofs

open Autograder.Number

section Percentage

variable {report : Report}

/-- The percentage is the exact one, rounded once, as long as the points fit 32 bits. -/
theorem percentage_eq_divHalfUp (hscore : report.score < 2 ^ 32) (hpos : 0 < report.max)
    (hmax : report.max < 2 ^ 32) :
    report.percentage = min (2 ^ 32 - 1) (divHalfUp (report.score * 100) report.max) := by
  have hhundred : (100.0 : Float) = Float.ofNat 100 := by decide +kernel
  have hne : (report.max == 0) = false := by simp [hpos.ne']
  simp only [Report.percentage, hne, Bool.false_eq_true, if_false, Nat.pow_eq, hhundred]
  rcases Nat.eq_zero_or_pos report.score with hzero | hscorePos
  · have hproduct : Float.ofNat 0 * Float.ofNat 100 = Float.ofNat 0 := by decide +kernel
    have hround : roundClamped (2 ^ 32 - 1) (Float.ofNat 0) = 0 := by decide +kernel
    have hexact : divHalfUp 0 report.max = 0 := Nat.div_eq_of_lt (by omega)
    rw [hzero, hproduct, zero_div_ofNat hpos (by omega), hround, zero_mul, hexact, Nat.min_zero]
  · rw [ofNat_mul_ofNat hscorePos (by norm_num) (by omega),
      roundClamped_ofNat_div_ofNat _ (by omega) (by omega) hpos (by omega)]

theorem percentage_le_hundred (hle : report.score ≤ report.max) (hmax : report.max < 2 ^ 32) :
    report.percentage ≤ 100 := by
  rcases Nat.eq_zero_or_pos report.max with hzero | hpos
  · simp [Report.percentage, hzero]
  · rw [percentage_eq_divHalfUp (by omega) hpos hmax]
    apply (Nat.min_le_right _ _).trans
    rw [divHalfUp, Nat.div_le_iff_le_mul_add_pred (by omega)]
    omega

lemma percentage_lt (report : Report) : report.percentage < 2 ^ 32 := by
  unfold Report.percentage
  split_ifs
  · norm_num
  · exact Nat.lt_of_le_of_lt (roundClamped_le _ _) (by norm_num)

theorem success_evaluation_eq (report : Report) :
    (SubmissionResult.evaluation report).success = decide (70 ≤ report.percentage) := by
  have hmark : Score.passMark = Float.ofNat 70 := by decide +kernel
  rw [Bool.eq_iff_iff, decide_eq_true_eq, ← ofNat_le_ofNat_iff (by norm_num)
    ((percentage_lt report).trans (by norm_num)), ← hmark]
  simp [SubmissionResult.success, Score.passes]

lemma percentage_le_percentage {lower : Report} (hscore : report.score < 2 ^ 32)
    (hpos : 0 < report.max) (hmax : report.max < 2 ^ 32) (hsame : lower.max = report.max)
    (hle : lower.score ≤ report.score) : lower.percentage ≤ report.percentage := by
  rw [percentage_eq_divHalfUp hscore hpos hmax,
    percentage_eq_divHalfUp (by omega) (by omega) (by omega), hsame]
  exact min_le_min_left _ (divHalfUp_le_divHalfUp (by omega))

/-- Rounding lets an evaluation pass from 69.5 percent on. -/
lemma seventy_le_percentage_iff (hscore : report.score < 2 ^ 32) (hpos : 0 < report.max)
    (hmax : report.max < 2 ^ 32) :
    70 ≤ report.percentage ↔ 139 * report.max ≤ 200 * report.score := by
  rw [percentage_eq_divHalfUp hscore hpos hmax, le_min_iff, divHalfUp,
    Nat.le_div_iff_mul_le (by omega)]
  omega

/-- The percentage is the exact share of the points, rounded once, and capped where 32 bits end. So
it grows with the score, stays within a hundred, and decides on passing by whole numbers. -/
theorem percentage_rounds_exact_share (hscore : report.score < 2 ^ 32)
    (hmax : report.max < 2 ^ 32) :
    (0 < report.max →
      report.percentage =
        min ((200 * report.score + report.max) / (2 * report.max)) 4294967295 ∧
      (report.percentage : ℤ) = min (round (100 * report.score / report.max : ℚ)) 4294967295 ∧
      (∀ lower : Report, lower.max = report.max → lower.score ≤ report.score →
        lower.percentage ≤ report.percentage) ∧
      (report.score ≤ report.max → report.percentage ≤ 100) ∧
      ((SubmissionResult.evaluation report).success = true ↔
        139 * report.max ≤ 200 * report.score)) ∧
    (report.max = 0 →
      report.percentage = 0 ∧ (SubmissionResult.evaluation report).success = false) := by
  refine ⟨fun hpos => ⟨?_, ?_, ?_, ?_, ?_⟩, fun hzero => ?_⟩
  · rw [percentage_eq_divHalfUp hscore hpos hmax, min_comm, divHalfUp]
    congr 2
    omega
  · have hshare : (100 * report.score / report.max : ℚ) =
        ((report.score * 100 : ℕ) : ℚ) / report.max := by
      push_cast
      ring
    rw [hshare, ← divHalfUp_eq_round hpos, percentage_eq_divHalfUp hscore hpos hmax, min_comm,
      Nat.cast_min]
    rfl
  · exact fun lower => percentage_le_percentage hscore hpos hmax
  · exact fun hle => percentage_le_hundred hle hmax
  · rw [success_evaluation_eq, decide_eq_true_eq, seventy_le_percentage_iff hscore hpos hmax]
  · have hpercentage : report.percentage = 0 := by simp [Report.percentage, hzero]
    rw [success_evaluation_eq, hpercentage]
    exact ⟨rfl, rfl⟩

/-- A two-hundredth of a point short of 69.5 percent, out of nearly all points that 32 bits hold:
the share is rounded down, and the evaluation does not pass. -/
theorem percentage_rounds_exact_share_short :
    let report : Report := ⟨2985002245, 4294967259, []⟩
    report.score < 2 ^ 32 ∧ report.max < 2 ^ 32 ∧ 0 < report.max ∧
      139 * report.max = 200 * report.score + 1 ∧ report.percentage = 69 ∧
      (SubmissionResult.evaluation report).success = false := by
  intro report
  have hscore : report.score < 2 ^ 32 := by decide
  have hmax : report.max < 2 ^ 32 := by decide
  have hpos : 0 < report.max := by decide
  obtain ⟨hpercentage, -, -, -, hsuccess⟩ := (percentage_rounds_exact_share hscore hmax).1 hpos
  have hshort : ¬ 139 * report.max ≤ 200 * report.score := by decide
  refine ⟨hscore, hmax, hpos, by decide, hpercentage.trans (by decide), ?_⟩
  rwa [← hsuccess, Bool.not_eq_true] at hshort

end Percentage

section Check

variable {checked : List CheckedRule} {rules : List Rule}

lemma check_rule_eq_ok_iff {rule : Rule} {kept : CheckedRule} : rule.check = .ok kept ↔
    0 < rule.points ∧ Pattern.parse rule.pattern = .ok kept.pattern ∧ kept.rule = rule := by
  constructor
  · intro h
    unfold Rule.check at h
    split_ifs at h with hworthless
    split at h
    · next pattern hpattern =>
      obtain rfl : (⟨rule, pattern⟩ : CheckedRule) = kept := Except.ok.inj h
      exact ⟨Nat.pos_of_ne_zero (by simpa using hworthless), hpattern, rfl⟩
    · cases h
  · rintro ⟨hpoints, hpattern, rfl⟩
    have hworth : (kept.rule.points == 0) = false := by simp [hpoints.ne']
    simp [Rule.check, hworth, hpattern]

lemma mapM_eq_ok_iff {α β ε : Type} {f : α → Except ε β} {xs : List α} {ys : List β} :
    xs.mapM f = .ok ys ↔ List.Forall₂ (fun x y => f x = .ok y) xs ys := by
  induction xs generalizing ys with
  | nil => cases ys <;> simp [pure, Except.pure]
  | cons x rest ih =>
    rw [List.mapM_cons]
    cases hfirst : f x with
    | error fault => cases ys <;> simp [bind, Except.bind, hfirst]
    | ok y =>
      cases hothers : rest.mapM f with
      | error fault => cases ys <;> simp [bind, Except.bind, hfirst, ← ih, hothers]
      | ok others => cases ys <;> simp [bind, Except.bind, pure, Except.pure, hfirst, ← ih, hothers]

lemma check_rubric_eq_ok_iff : Rubric.check rules = .ok checked ↔
    rules ≠ [] ∧ List.Forall₂ (fun rule kept => rule.check = .ok kept) rules checked := by
  rw [← mapM_eq_ok_iff]
  cases rules with
  | nil => simp [Rubric.check]
  | cons rule rest => simp [Rubric.check]

lemma map_rule_of_check (h : Rubric.check rules = .ok checked) :
    checked.map CheckedRule.rule = rules := by
  rw [← List.forall₂_eq_eq_eq, List.forall₂_map_left_iff]
  exact ((check_rubric_eq_ok_iff.mp h).2.imp fun _ _ hkept =>
    (check_rule_eq_ok_iff.mp hkept).2.2).flip

end Check

section Report

variable {checked : List CheckedRule} {rules : List Rule} {text : List Char}

lemma max_report_of_check (h : Rubric.check rules = .ok checked)
    (hfits : Number.total (rules.map Rule.points) < 2 ^ 32) :
    (Rubric.report checked text).max = Number.total (rules.map Rule.points) := by
  have hpoints : (checked.map CheckedRule.criterion).map Criterion.points =
      rules.map Rule.points := by
    rw [← map_rule_of_check h, List.map_map, List.map_map]
    rfl
  rw [← hpoints] at hfits ⊢
  exact Number.total32_eq_total hfits

lemma total_awarded_le (h : Rubric.check rules = .ok checked) :
    Number.total ((Rubric.report checked text).results.map RuleResult.awarded) ≤
      Number.total (rules.map Rule.points) := by
  rw [← map_rule_of_check h, Rubric.report, List.map_map, List.map_map]
  apply total_map_le_total_map
  intro rule
  simp only [Function.comp_apply, RuleResult.ofAssessment, CheckedRule.assess,
    Assessment.ofCriterion]
  split_ifs
  · exact le_rfl
  · exact Nat.zero_le _

lemma score_report_of_check (h : Rubric.check rules = .ok checked)
    (hfits : Number.total (rules.map Rule.points) < 2 ^ 32) :
    (Rubric.report checked text).score =
      Number.total ((Rubric.report checked text).results.map RuleResult.awarded) :=
  Number.total32_eq_total ((total_awarded_le h).trans_lt hfits)

theorem score_report_le_max (h : Rubric.check rules = .ok checked)
    (hfits : Number.total (rules.map Rule.points) < 2 ^ 32) :
    (Rubric.report checked text).score ≤ (Rubric.report checked text).max := by
  rw [score_report_of_check h hfits, max_report_of_check h hfits]
  exact total_awarded_le h

theorem percentage_report_le_hundred (h : Rubric.check rules = .ok checked)
    (hfits : Number.total (rules.map Rule.points) < 2 ^ 32) :
    (Rubric.report checked text).percentage ≤ 100 :=
  percentage_le_hundred (score_report_le_max h hfits) ((max_report_of_check h hfits).trans_lt hfits)

end Report

end Autograder.Proofs
