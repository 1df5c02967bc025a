import Autograder.Proofs.Check.VisibleLines
import Autograder.Proofs.Grading.Outcomes
import Autograder.Proofs.Language.Layout
import Autograder.Proofs.Source.Layout

/-!
# Grading does not depend on layout

Indentation, trailing blanks, blank lines and the kind of line ends never matter: submissions with
the same visible lines are told to be in the same language, and they are accepted and scored alike,
or rejected for the same kinds of faults on the same lines. The one exception is a line that ends in
a backslash, since the blanks behind it decide what the backslash escapes.
-/

namespace Autograder.Proofs

open Autograder.Check Autograder.Source

/-- Two faults of one kind: both on no line in particular, or both on the same visible line. -/
structure SameFault (s t : List Char) (fault other : Fault) : Prop where
  kind : fault.kind = other.kind
  line : (fault.line = 0 ∧ other.line = 0) ∨ SameLine s t fault.line other.line

/-- What two submissions have in common if layout is all that tells them apart. -/
structure GradedAlike (s t solution : List Char) (language : Option Language)
    (strategy : GradingStrategy) : Prop where
  detected : Language.detect s = Language.detect t
  normal : normalize s = normalize t
  rejected : (grade s solution language strategy).stage = .faulty ↔
    (grade t solution language strategy).stage = .faulty
  accepted : (grade s solution language strategy).stage ≠ .faulty →
    grade s solution language strategy = grade t solution language strategy
  faults : List.Forall₂ (SameFault s t) (grade s solution language strategy).details.faults
    (grade t solution language strategy).details.faults

section Layout

variable {s t : List Char}

lemma sameFault_of_corresponds {finding other : Finding}
    (h : Corresponds (SameLine s t) finding other) : SameFault s t finding.fault other.fault :=
  ⟨h.kind, h.line⟩

/-- Submissions with the same visible lines, none of which ends in a backslash, are graded
alike. -/
theorem gradedAlike_of_sameLines (solution : List Char) (language : Option Language)
    (strategy : GradingStrategy) (h : SameLines s t)
    (hlines : ∀ line ∈ lineTexts s, line.getLast? ≠ some '\\') :
    GradedAlike s t solution language strategy := by
  have hdetect := detect_of_sameLines h
  have hnormal := normalize_eq_of_sameLines h
  have hvisible : ∀ p ∈ visibleLines s, p.1.getLast? ≠ some '\\' :=
    fun p hp => hlines p.1 (List.mem_map_of_mem hp)
  have hlanguage : language.getD (Language.detect s) = language.getD (Language.detect t) := by
    rw [hdetect]
  have hfindings : List.Forall₂ (Corresponds (SameLine s t)) (findingsOf s language)
      (findingsOf t language) := by
    unfold findingsOf
    rw [← hlanguage]
    exact forall₂_check h hvisible _
  by_cases hs : findingsOf s language = []
  · have ht : findingsOf t language = [] := by
      rw [hs] at hfindings
      exact List.forall₂_nil_left_iff.mp hfindings
    have hgrade : grade s solution language strategy = grade t solution language strategy := by
      rw [grade_eq_ofComparison solution strategy hs, grade_eq_ofComparison solution strategy ht,
        hlanguage, hnormal]
    refine ⟨hdetect, hnormal, by rw [hgrade], fun _ => hgrade, ?_⟩
    rw [grade_eq_ofComparison solution strategy hs, grade_eq_ofComparison solution strategy ht]
    exact .nil
  · have ht : findingsOf t language ≠ [] := by
      intro ht
      rw [ht] at hfindings
      exact hs (List.forall₂_nil_right_iff.mp hfindings)
    have hgrade := grade_eq_ofFaults solution strategy hs
    have hgrade' := grade_eq_ofFaults solution strategy ht
    refine ⟨hdetect, hnormal, ?_, fun hscored => ?_, ?_⟩
    · rw [hgrade, hgrade']
      rfl
    · rw [hgrade] at hscored
      exact absurd rfl hscored
    · rw [hgrade, hgrade']
      exact List.rel_map (fun _ _ h => sameFault_of_corresponds h) hfindings

/-- Other indentation, blank lines, trailing blanks and line ends leave the fault on its line, the
second visible one. -/
theorem gradedAlike_indented :
    SameLines "int a = 1;\nint b".toList "\r\n\tint a = 1; \r\n\r\n  int b\n".toList ∧
      (∀ line ∈ lineTexts "int a = 1;\nint b".toList, line.getLast? ≠ some '\\') ∧
      GradedAlike "int a = 1;\nint b".toList "\r\n\tint a = 1; \r\n\r\n  int b\n".toList
        "int a = 1;\nint b;".toList none {} := by
  have hsame : SameLines "int a = 1;\nint b".toList
      "\r\n\tint a = 1; \r\n\r\n  int b\n".toList := by
    unfold SameLines
    decide +kernel
  have hlines : ∀ line ∈ lineTexts "int a = 1;\nint b".toList, line.getLast? ≠ some '\\' := by
    decide +kernel
  exact ⟨hsame, hlines, gradedAlike_of_sameLines _ none {} hsame hlines⟩

end Layout

end Autograder.Proofs
