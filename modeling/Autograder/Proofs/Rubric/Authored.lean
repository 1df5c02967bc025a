import Autograder.Proofs.Rubric.Percentage

/-!
# Reports by an author's rules

A rubric that stands the check gives every code a report, with one result for each rule in the
author's order. The points of the rules that are found add up to the score. So the score is full if
all rules are found, and zero if none is, because no rule is worth nothing. Rules that stand beside
other rules, or in another order, have the same results.
-/

namespace Autograder.Proofs

open Autograder.Number

/-- What an author has to see to: there are rules, each is worth something and writes a pattern, and
their points fit 32 bits. -/
structure IsGradable (rules : List Rule) : Prop where
  nonempty : rules ≠ []
  points_pos : ∀ rule ∈ rules, 0 < rule.points
  readable : ∀ rule ∈ rules, ∃ pattern, Pattern.parse rule.pattern = .ok pattern
  fits : Number.total (rules.map Rule.points) < 2 ^ 32

/-- The pattern that the rule writes is found in the text. -/
def IsFound (text : List Char) (rule : Rule) : Prop :=
  ∃ pattern, Pattern.parse rule.pattern = .ok pattern ∧ pattern.occursIn text = true

lemma isFound_iff {text : List Char} {rule : Rule} {pattern : Pattern.Node}
    (h : Pattern.parse rule.pattern = .ok pattern) :
    IsFound text rule ↔ pattern.occursIn text = true := by
  constructor
  · rintro ⟨other, hother, hoccurs⟩
    obtain rfl : pattern = other := Except.ok.inj (h.symm.trans hother)
    exact hoccurs
  · exact fun hoccurs => ⟨pattern, h, hoccurs⟩

instance (text : List Char) (rule : Rule) : Decidable (IsFound text rule) :=
  match h : Pattern.parse rule.pattern with
  | .ok _ => decidable_of_iff _ (isFound_iff h).symm
  | .error _ => .isFalse fun ⟨_, hpattern, _⟩ => by rw [h] at hpattern; cases hpattern

/-- What there is to say of a rule about a text. -/
def resultOn (text : List Char) (rule : Rule) : RuleResult where
  label := rule.label
  correct := decide (IsFound text rule)
  awarded := if IsFound text rule then rule.points else 0
  total := rule.points
  feedback := if IsFound text rule then "Correcto" else rule.feedback

/-- What there is to say of rules about a text. -/
structure IsReportOn (text : List Char) (rules : List Rule) (report : Report) : Prop where
  results : report.results = rules.map (resultOn text)
  score : report.score = Number.total (report.results.map RuleResult.awarded)
  max : report.max = Number.total (rules.map Rule.points)
  score_le_max : report.score ≤ report.max
  max_fits : report.max < 2 ^ 32
  full_iff : report.score = report.max ↔ ∀ rule ∈ rules, IsFound text rule
  none_iff : report.score = 0 ↔ ∀ rule ∈ rules, ¬ IsFound text rule

section Total

variable {α : Type} {f g : α → Nat} {xs : List α}

lemma total_perm {ns ms : List Nat} (h : ns.Perm ms) : Number.total ns = Number.total ms := by
  rw [total_eq_sum, total_eq_sum, h.sum_eq]

/-- A sum of smaller numbers is as large only if none of them is smaller. -/
lemma total_map_eq_iff (h : ∀ x, f x ≤ g x) :
    Number.total (xs.map f) = Number.total (xs.map g) ↔ ∀ x ∈ xs, f x = g x := by
  induction xs with
  | nil => simp
  | cons x rest ih =>
    have hfirst := h x
    have hrest := total_map_le_total_map h rest
    rw [List.forall_mem_cons, ← ih]
    simp only [List.map_cons, Number.total]
    omega

lemma total_eq_zero_iff {ns : List Nat} : Number.total ns = 0 ↔ ∀ n ∈ ns, n = 0 := by
  rw [total_eq_sum, List.sum_eq_zero_iff]

end Total

section Check

variable {rules : List Rule} {text : List Char}

lemma check_of_isGradable (h : IsGradable rules) : ∃ pattern : Rule → Pattern.Node,
    (∀ rule ∈ rules, Pattern.parse rule.pattern = .ok (pattern rule)) ∧
      Rubric.check rules = .ok (rules.map fun rule => ⟨rule, pattern rule⟩) := by
  have : Nonempty Pattern.Node := ⟨.empty⟩
  choose! pattern hpattern using h.readable
  refine ⟨pattern, hpattern, check_rubric_eq_ok_iff.mpr ⟨h.nonempty, ?_⟩⟩
  rw [List.forall₂_map_right_iff, List.forall₂_same]
  intro rule hrule
  exact check_rule_eq_ok_iff.mpr ⟨h.points_pos rule hrule, hpattern rule hrule, rfl⟩

lemma ofAssessment_assess {rule : Rule} {pattern : Pattern.Node}
    (h : Pattern.parse rule.pattern = .ok pattern) :
    RuleResult.ofAssessment (CheckedRule.assess ⟨rule, pattern⟩ text) = resultOn text rule := by
  by_cases hoccurs : pattern.occursIn text = true <;>
    simp [RuleResult.ofAssessment, CheckedRule.assess, Assessment.ofCriterion,
      CheckedRule.criterion, resultOn, isFound_iff h, hoccurs]

lemma results_report {pattern : Rule → Pattern.Node}
    (h : ∀ rule ∈ rules, Pattern.parse rule.pattern = .ok (pattern rule)) :
    (Rubric.report (rules.map fun rule => ⟨rule, pattern rule⟩) text).results =
      rules.map (resultOn text) := by
  simp only [Rubric.report, List.map_map]
  exact List.map_congr_left fun rule hrule => ofAssessment_assess (h rule hrule)

end Check

section Report

variable {rules others : List Rule} {text : List Char} {report other : Report}

lemma awarded_resultOn_le (rule : Rule) : (resultOn text rule).awarded ≤ rule.points := by
  simp only [resultOn]
  split_ifs <;> omega

lemma awarded_resultOn_eq_points_iff {rule : Rule} (h : 0 < rule.points) :
    (resultOn text rule).awarded = rule.points ↔ IsFound text rule := by
  simp only [resultOn]
  split_ifs with hfound <;> simp [hfound, h.ne]

lemma awarded_resultOn_eq_zero_iff {rule : Rule} (h : 0 < rule.points) :
    (resultOn text rule).awarded = 0 ↔ ¬ IsFound text rule := by
  simp only [resultOn]
  split_ifs with hfound <;> simp [hfound, h.ne']

lemma total_awarded_map_resultOn (rules : List Rule) :
    Number.total ((rules.map (resultOn text)).map RuleResult.awarded) =
      Number.total (rules.map fun rule => (resultOn text rule).awarded) := by
  rw [List.map_map]
  rfl

lemma isReportOn_of_sums (h : IsGradable rules)
    (hresults : report.results = rules.map (resultOn text))
    (hscore : report.score = Number.total (report.results.map RuleResult.awarded))
    (hmax : report.max = Number.total (rules.map Rule.points)) : IsReportOn text rules report where
  results := hresults
  score := hscore
  max := hmax
  score_le_max := by
    rw [hscore, hmax, hresults, total_awarded_map_resultOn]
    exact total_map_le_total_map awarded_resultOn_le rules
  max_fits := hmax.trans_lt h.fits
  full_iff := by
    rw [hscore, hmax, hresults, total_awarded_map_resultOn, total_map_eq_iff awarded_resultOn_le]
    exact forall₂_congr fun rule hrule => awarded_resultOn_eq_points_iff (h.points_pos rule hrule)
  none_iff := by
    rw [hscore, hresults, total_awarded_map_resultOn, total_eq_zero_iff, List.forall_mem_map]
    exact forall₂_congr fun rule hrule => awarded_resultOn_eq_zero_iff (h.points_pos rule hrule)

lemma gradeBy_of_isGradable (h : IsGradable rules) (code : List Char) :
    ∃ report, Rubric.gradeBy rules code = .ok report ∧
      IsReportOn (Source.normalize code) rules report := by
  obtain ⟨pattern, hpattern, hcheck⟩ := check_of_isGradable h
  refine ⟨_, ?_, isReportOn_of_sums h (results_report hpattern)
    (score_report_of_check hcheck h.fits) (max_report_of_check hcheck h.fits)⟩
  rw [Rubric.gradeBy, hcheck]
  rfl

lemma isGradable_append (h : IsGradable rules) (hothers : IsGradable others)
    (hfits : Number.total ((rules ++ others).map Rule.points) < 2 ^ 32) :
    IsGradable (rules ++ others) where
  nonempty := List.append_ne_nil_of_left_ne_nil h.nonempty others
  points_pos := List.forall_mem_append.mpr ⟨h.points_pos, hothers.points_pos⟩
  readable := List.forall_mem_append.mpr ⟨h.readable, hothers.readable⟩
  fits := hfits

lemma isGradable_perm (h : IsGradable rules) (hperm : rules.Perm others) : IsGradable others where
  nonempty := by
    rintro rfl
    exact h.nonempty hperm.eq_nil
  points_pos rule hrule := h.points_pos rule (hperm.mem_iff.mpr hrule)
  readable rule hrule := h.readable rule (hperm.mem_iff.mpr hrule)
  fits := total_perm (hperm.map Rule.points) ▸ h.fits

lemma eq_of_isReportOn_append {both : Report} (h : IsReportOn text rules report)
    (hothers : IsReportOn text others other) (hboth : IsReportOn text (rules ++ others) both) :
    both = ⟨report.score + other.score, report.max + other.max,
      report.results ++ other.results⟩ := by
  have hresults : both.results = report.results ++ other.results := by
    rw [hboth.results, h.results, hothers.results, List.map_append]
  have hscore : both.score = report.score + other.score := by
    rw [hboth.score, h.score, hothers.score, hresults, List.map_append, Number.total_append]
  have hmax : both.max = report.max + other.max := by
    rw [hboth.max, h.max, hothers.max, List.map_append, Number.total_append]
  rw [← hresults, ← hscore, ← hmax]

lemma perm_of_isReportOn (hperm : rules.Perm others) (h : IsReportOn text rules report)
    (hothers : IsReportOn text others other) :
    (rules.zip report.results).Perm (others.zip other.results) ∧ other.score = report.score ∧
      other.max = report.max := by
  have hzip (list : List Rule) : list.zip (list.map (resultOn text)) =
      list.map fun rule => (rule, resultOn text rule) := by
    simpa using List.zip_map' (l := list) (f := id) (g := resultOn text)
  refine ⟨?_, ?_, ?_⟩
  · rw [h.results, hothers.results, hzip, hzip]
    exact hperm.map _
  · rw [h.score, hothers.score, h.results, hothers.results]
    exact (total_perm ((hperm.map _).map _)).symm
  · rw [h.max, hothers.max]
    exact (total_perm (hperm.map _)).symm

/-- Every code gets the report that there is to give by rules that can be graded by. Putting two
rubrics together puts their reports together, and the order of the rules is that of the results and
of nothing else. -/
theorem gradeBy_reports (code : List Char) :
    (∀ rules, IsGradable rules → ∃ report, Rubric.gradeBy rules code = .ok report ∧
      IsReportOn (Source.normalize code) rules report) ∧
    (∀ rules others, IsGradable rules → IsGradable others →
      Number.total ((rules ++ others).map Rule.points) < 2 ^ 32 →
      ∃ report other, Rubric.gradeBy rules code = .ok report ∧
        Rubric.gradeBy others code = .ok other ∧
        Rubric.gradeBy (rules ++ others) code = .ok
          ⟨report.score + other.score, report.max + other.max, report.results ++ other.results⟩) ∧
    ∀ rules others, IsGradable rules → rules.Perm others →
      ∃ report other, Rubric.gradeBy rules code = .ok report ∧
        Rubric.gradeBy others code = .ok other ∧
        (rules.zip report.results).Perm (others.zip other.results) ∧
        other.score = report.score ∧ other.max = report.max := by
  refine ⟨fun rules h => gradeBy_of_isGradable h code, ?_, ?_⟩
  · intro rules others h hothers hfits
    obtain ⟨report, hgrade, hreport⟩ := gradeBy_of_isGradable h code
    obtain ⟨other, hgradeOther, hother⟩ := gradeBy_of_isGradable hothers code
    obtain ⟨both, hgradeBoth, hboth⟩ :=
      gradeBy_of_isGradable (isGradable_append h hothers hfits) code
    refine ⟨report, other, hgrade, hgradeOther, ?_⟩
    rw [hgradeBoth, eq_of_isReportOn_append hreport hother hboth]
  · intro rules others h hperm
    obtain ⟨report, hgrade, hreport⟩ := gradeBy_of_isGradable h code
    obtain ⟨other, hgradeOther, hother⟩ := gradeBy_of_isGradable (isGradable_perm h hperm) code
    exact ⟨report, other, hgrade, hgradeOther, perm_of_isReportOn hperm hreport hother⟩

end Report

section Partly

lemma isGradable_of_isOk {rules : List Rule} (hne : rules ≠ [])
    (hpoints : ∀ rule ∈ rules, 0 < rule.points)
    (hparse : ∀ rule ∈ rules, (Pattern.parse rule.pattern).isOk = true)
    (hfits : Number.total (rules.map Rule.points) < 2 ^ 32) : IsGradable rules where
  nonempty := hne
  points_pos := hpoints
  readable rule hrule := by
    have hok := hparse rule hrule
    cases h : Pattern.parse rule.pattern with
    | ok pattern => exact ⟨pattern, rfl⟩
    | error refusal => rw [h] at hok; cases hok
  fits := hfits

def agedRule : Rule := ⟨"age", "age = 25;", 40, "Declare the age"⟩

def shownRule : Rule := ⟨"output", "printf", 60, "Show the age"⟩

def endedRule : Rule := ⟨"end", "return", 10, "Return at the end"⟩

/-- The age is declared in capital letters, and it is shown only in a comment. -/
def agedCode : List Char :=
  "AGE  = 25; // printf".toList

/-- One of two rules is found and the other is not, alone, beside another rule and in another
order. -/
theorem gradeBy_reports_partly :
    IsGradable [agedRule, shownRule] ∧ IsGradable [endedRule] ∧
      Number.total (([agedRule, shownRule] ++ [endedRule]).map Rule.points) < 2 ^ 32 ∧
      [agedRule, shownRule].Perm [shownRule, agedRule] ∧
      (∃ report, Rubric.gradeBy [agedRule, shownRule] agedCode = .ok report ∧
        report.score ≠ 0 ∧ report.score ≠ report.max) ∧
      (∃ report other : Report, Rubric.gradeBy [agedRule, shownRule, endedRule] agedCode = .ok
        ⟨report.score + other.score, report.max + other.max, report.results ++ other.results⟩) ∧
      ∃ report other, Rubric.gradeBy [agedRule, shownRule] agedCode = .ok report ∧
        Rubric.gradeBy [shownRule, agedRule] agedCode = .ok other ∧
        other.score = report.score := by
  have hrules : IsGradable [agedRule, shownRule] :=
    isGradable_of_isOk (by simp) (by decide) (by decide +kernel) (by decide)
  have hended : IsGradable [endedRule] :=
    isGradable_of_isOk (by simp) (by decide) (by decide +kernel) (by decide)
  have hfits : Number.total (([agedRule, shownRule] ++ [endedRule]).map Rule.points) < 2 ^ 32 := by
    decide
  have hperm : [agedRule, shownRule].Perm [shownRule, agedRule] := List.Perm.swap _ _ _
  obtain ⟨hreports, happend, hturned⟩ := gradeBy_reports agedCode
  refine ⟨hrules, hended, hfits, hperm, ?_, ?_, ?_⟩
  · obtain ⟨report, hgrade, hreport⟩ := hreports _ hrules
    have haged : IsFound (Source.normalize agedCode) agedRule := by decide +kernel
    have hshown : ¬ IsFound (Source.normalize agedCode) shownRule := by decide +kernel
    refine ⟨report, hgrade, fun hnone => ?_, fun hfull => ?_⟩
    · exact hreport.none_iff.mp hnone agedRule (by simp) haged
    · exact hshown (hreport.full_iff.mp hfull shownRule (by simp))
  · obtain ⟨report, other, -, -, hboth⟩ := happend _ _ hrules hended hfits
    exact ⟨report, other, hboth⟩
  · obtain ⟨report, other, hgrade, hother, -, hscore, -⟩ := hturned _ _ hrules hperm
    exact ⟨report, other, hgrade, hother, hscore⟩

end Partly

end Autograder.Proofs
