import Autograder.Proofs.Rubric.LineRules
import Autograder.Proofs.Rubric.Points
import Autograder.Proofs.Text.SameLines

/-!
# Rubrics of composed solutions

A derived rubric is put together line by line: the rubric of one solution below another lists the
criteria of both. Only the general criteria stand aside, as they are given to a solution without any
line of its own to ask for. Blanks around lines and blank lines have no say in a rubric, and its
points are never zero in sum and fit 32 bits for any solution of an ordinary size.
-/

namespace Autograder.Proofs

open Autograder.Text

/-- Some line of the solution has the shape of a rule. -/
def HasRuleLine (solution : List Char) : Prop :=
  ∃ line ∈ lineTexts solution, ∃ rule, ruleShape rule line

/-- The criteria are those of two solutions, one below the other. -/
structure IsRubricOfBoth (above below : List Char) (criteria : List Criterion) : Prop where
  both : HasRuleLine above → HasRuleLine below →
    criteria = Rubric.derive above ++ Rubric.derive below
  above_only : HasRuleLine above → ¬ HasRuleLine below → criteria = Rubric.derive above
  below_only : ¬ HasRuleLine above → HasRuleLine below → criteria = Rubric.derive below
  neither : ¬ HasRuleLine above → ¬ HasRuleLine below → criteria = Rubric.generalCriteria

/-- The criteria are those of the solution's lines, or the general ones if it has no line for a
rule. -/
structure IsRubricOf (solution : List Char) (criteria : List Criterion) : Prop where
  nonempty : criteria ≠ []
  own : HasRuleLine solution → criteria = (lineTexts solution).filterMap Rubric.lineCriterion?
  length_le : HasRuleLine solution → criteria.length ≤ (lineTexts solution).length
  general_iff : criteria = Rubric.generalCriteria ↔ ¬ HasRuleLine solution
  total_pos : 0 < Number.total (criteria.map Criterion.points)
  total_fits : PointsFit solution →
    totalPoints criteria = Number.total (criteria.map Criterion.points) ∧
      totalPoints criteria ≤ 4294967295

section Lines

variable {solution other above below line : List Char}

lemma isSome_lineCriterion?_iff :
    (Rubric.lineCriterion? line).isSome = true ↔ ∃ rule, ruleShape rule line := by
  rw [Rubric.lineCriterion?, List.findSome?_isSome_iff]
  constructor
  · rintro ⟨rule, -, hrule⟩
    exact ⟨rule, (isSome_criterion?_iff rule line).mp hrule⟩
  · rintro ⟨rule, hrule⟩
    have hall : rule ∈ LineRule.all := by cases rule <;> decide
    exact ⟨rule, hall, (isSome_criterion?_iff rule line).mpr hrule⟩

lemma ownCriteria_eq (solution : List Char) :
    Rubric.ownCriteria solution = (lineTexts solution).filterMap Rubric.lineCriterion? := by
  rw [lineTexts, visibleLines, map_fst_numberedRows]
  exact filterMap_trim rfl (lines solution)

lemma ownCriteria_append (above below : List Char) :
    Rubric.ownCriteria (above ++ '\n' :: below) =
      Rubric.ownCriteria above ++ Rubric.ownCriteria below := by
  simp only [ownCriteria_eq, lineTexts_append_newline, List.filterMap_append]

lemma ownCriteria_eq_nil_iff : Rubric.ownCriteria solution = [] ↔ ¬ HasRuleLine solution := by
  rw [ownCriteria_eq, List.filterMap_eq_nil_iff]
  unfold HasRuleLine
  simp only [← isSome_lineCriterion?_iff, not_exists, not_and, Option.not_isSome_iff_eq_none]

lemma kind_ne_outline_of_mem {criterion : Criterion} (h : criterion ∈ Rubric.ownCriteria solution) :
    criterion.kind ≠ .outline := by
  obtain ⟨line, -, hline⟩ := List.mem_filterMap.mp h
  obtain ⟨rule, -, hrule⟩ := List.exists_of_findSome?_eq_some hline
  obtain ⟨label, -, rfl⟩ := Option.map_eq_some_iff.mp hrule
  cases rule <;> simp [LineRule.kind]

end Lines

section Derive

variable {solution other above below : List Char}

lemma derive_of_hasRuleLine (h : HasRuleLine solution) :
    Rubric.derive solution = Rubric.ownCriteria solution := by
  have hne : Rubric.ownCriteria solution ≠ [] := fun hnil => ownCriteria_eq_nil_iff.mp hnil h
  exact if_neg (by simpa using hne)

lemma derive_of_not_hasRuleLine (h : ¬ HasRuleLine solution) :
    Rubric.derive solution = Rubric.generalCriteria := by
  rw [Rubric.derive, ownCriteria_eq_nil_iff.mpr h]
  rfl

lemma derive_eq_generalCriteria_iff :
    Rubric.derive solution = Rubric.generalCriteria ↔ ¬ HasRuleLine solution := by
  constructor
  · intro hgeneral hline
    rw [derive_of_hasRuleLine hline] at hgeneral
    -- no rule has a criterion of the kind that the first of the general ones has
    have hmem : ⟨"Estructura general", 40, .outline, none⟩ ∈ Rubric.ownCriteria solution := by
      rw [hgeneral]
      exact List.mem_cons_self
    exact kind_ne_outline_of_mem hmem rfl
  · exact derive_of_not_hasRuleLine

lemma hasRuleLine_append_iff :
    HasRuleLine (above ++ '\n' :: below) ↔ HasRuleLine above ∨ HasRuleLine below := by
  unfold HasRuleLine
  simp only [lineTexts_append_newline, List.mem_append, or_and_right, exists_or]

lemma derive_append_of_hasRuleLine (h : HasRuleLine above ∨ HasRuleLine below) :
    Rubric.derive (above ++ '\n' :: below) =
      Rubric.ownCriteria above ++ Rubric.ownCriteria below := by
  rw [derive_of_hasRuleLine (hasRuleLine_append_iff.mpr h), ownCriteria_append]

lemma isRubricOfBoth_derive (above below : List Char) :
    IsRubricOfBoth above below (Rubric.derive (above ++ '\n' :: below)) where
  both habove hbelow := by
    rw [derive_append_of_hasRuleLine (.inl habove), derive_of_hasRuleLine habove,
      derive_of_hasRuleLine hbelow]
  above_only habove hbelow := by
    rw [derive_append_of_hasRuleLine (.inl habove), derive_of_hasRuleLine habove,
      ownCriteria_eq_nil_iff.mpr hbelow, List.append_nil]
  below_only habove hbelow := by
    rw [derive_append_of_hasRuleLine (.inr hbelow), derive_of_hasRuleLine hbelow,
      ownCriteria_eq_nil_iff.mpr habove, List.nil_append]
  neither habove hbelow := by
    apply derive_of_not_hasRuleLine
    intro h
    exact (hasRuleLine_append_iff.mp h).elim habove hbelow

lemma derive_of_sameLines (h : SameLines solution other) :
    Rubric.derive solution = Rubric.derive other := by
  have hlines : lineTexts solution = lineTexts other := h
  simp only [Rubric.derive, ownCriteria_eq, hlines]

lemma isRubricOf_derive (solution : List Char) :
    IsRubricOf solution (Rubric.derive solution) where
  nonempty := derive_ne_nil solution
  own h := by rw [derive_of_hasRuleLine h, ownCriteria_eq]
  length_le h := by
    rw [derive_of_hasRuleLine h, ownCriteria_eq]
    exact List.length_filterMap_le _ _
  general_iff := derive_eq_generalCriteria_iff
  total_pos := total_derive_pos solution
  total_fits h := by
    have hlt := total_derive_lt h
    rw [totalPoints_derive_eq h]
    exact ⟨rfl, by omega⟩

/-- The rubric of a solution is put together from those of its parts; it does not depend on the
layout of the lines, and there is always something to earn by it. -/
theorem derive_composes :
    (∀ above below, IsRubricOfBoth above below (Rubric.derive (above ++ '\n' :: below))) ∧
    (∀ solution other, SameLines solution other →
      Rubric.derive solution = Rubric.derive other) ∧
    ∀ solution, IsRubricOf solution (Rubric.derive solution) :=
  ⟨isRubricOfBoth_derive, fun _ _ => derive_of_sameLines, isRubricOf_derive⟩

/-- A carriage return where the two solutions meet, a solution that asks for nothing, and a rubric
of another layout. -/
theorem derive_composes_returned :
    let declared := "int a = 1;\r".toList
    let tested := "\tif (a) a = 2;".toList
    let silent := "Leer a".toList
    HasRuleLine declared ∧ HasRuleLine tested ∧ ¬ HasRuleLine silent ∧
      Rubric.derive (declared ++ '\n' :: tested) =
        [⟨"Declaración de la variable 'a' (int)", 20, .declaration, none⟩,
          ⟨"Condicional if (a)", 25, .conditional, none⟩] ∧
      Rubric.derive (silent ++ '\n' :: tested) = [⟨"Condicional if (a)", 25, .conditional, none⟩] ∧
      SameLines declared "\n int a = 1;".toList ∧
      Rubric.derive declared = Rubric.derive "\n int a = 1;".toList ∧
      PointsFit declared ∧ totalPoints (Rubric.derive declared) ≤ 4294967295 := by
  intro declared tested silent
  have hline {s : List Char} (h : Rubric.ownCriteria s ≠ []) : HasRuleLine s :=
    not_not.mp fun hno => h (ownCriteria_eq_nil_iff.mpr hno)
  have hdeclared : HasRuleLine declared := hline (by decide +kernel)
  have htested : HasRuleLine tested := hline (by decide +kernel)
  have hsilent : ¬ HasRuleLine silent := ownCriteria_eq_nil_iff.mp (by decide +kernel)
  have hsame : SameLines declared "\n int a = 1;".toList := by
    unfold SameLines
    decide +kernel
  have hfit : PointsFit declared := pointsFit_of_length_lt (by decide)
  obtain ⟨hcompose, hlayout, hrubric⟩ := derive_composes
  refine ⟨hdeclared, htested, hsilent, ?_, ?_, hsame, hlayout _ _ hsame, hfit,
    ((hrubric declared).total_fits hfit).2⟩
  · rw [(hcompose declared tested).both hdeclared htested]
    decide +kernel
  · rw [(hcompose silent tested).below_only hsilent htested]
    decide +kernel

end Derive

end Autograder.Proofs
