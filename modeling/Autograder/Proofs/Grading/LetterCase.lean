import Autograder.Proofs.Check.LetterCase
import Autograder.Proofs.Grading.Outcomes

/-!
# Grading pseudocode does not depend on letter case

Pseudocode is accepted or rejected whatever the case of its ASCII letters. If it is accepted, the
outcome is the same; if it is rejected, faults of the same kinds are shown on the same lines, and
only their messages may spell a name differently.
-/

namespace Autograder.Proofs

open Autograder.Check Autograder.Source

variable {s t : List Char}

lemma map_mark_fault (findings : List Finding) :
    (findings.map Finding.fault).map (fun fault => (fault.line, fault.kind)) =
      findings.map mark := by
  rw [List.map_map]
  rfl

/-- Two submissions in pseudocode that differ in the case of ASCII letters at most are both rejected
or both accepted. Accepted they have the same outcome, and rejected they have the same kinds of
faults on the same lines, in the same order. -/
theorem grade_pseint_of_sameLetters (h : SameLetters s t) (solution : List Char)
    (strategy : GradingStrategy) :
    ((grade s solution (some .pseint) strategy).stage = .faulty ↔
      (grade t solution (some .pseint) strategy).stage = .faulty) ∧
    ((grade s solution (some .pseint) strategy).stage ≠ .faulty →
      grade s solution (some .pseint) strategy = grade t solution (some .pseint) strategy) ∧
    (grade s solution (some .pseint) strategy).details.faults.map
        (fun fault => (fault.line, fault.kind)) =
      (grade t solution (some .pseint) strategy).details.faults.map
        (fun fault => (fault.line, fault.kind)) := by
  have hmarks : (findingsOf s (some .pseint)).map mark = (findingsOf t (some .pseint)).map mark :=
    map_mark_check_of_sameLetters h
  have hnormal := normalize_eq_of_sameLetters h
  -- without findings the outcome is one of the normal form, with findings one of the marks
  by_cases hs : findingsOf s (some .pseint) = []
  · have ht : findingsOf t (some .pseint) = [] := by
      rw [hs, List.map_nil] at hmarks
      exact List.map_eq_nil_iff.mp hmarks.symm
    have hgrade : grade s solution (some .pseint) strategy =
        grade t solution (some .pseint) strategy := by
      rw [grade_eq_ofComparison solution strategy hs, grade_eq_ofComparison solution strategy ht,
        hnormal]
      rfl
    exact ⟨by rw [hgrade], fun _ => hgrade, by rw [hgrade]⟩
  · have ht : findingsOf t (some .pseint) ≠ [] := by
      intro ht
      rw [ht, List.map_nil] at hmarks
      exact hs (List.map_eq_nil_iff.mp hmarks)
    rw [grade_eq_ofFaults solution strategy hs, grade_eq_ofFaults solution strategy ht]
    refine ⟨⟨fun _ => rfl, fun _ => rfl⟩, fun hscored => absurd rfl hscored, ?_⟩
    simp only [Outcome.ofFaults, map_mark_fault, hmarks]

/-- Keywords and names in other letters: the one name that is not defined is found on its line. -/
theorem grade_pseint_of_sameLetters_shouted :
    let spoken := "Definir x Como Entero;\nX <- Σ; Y <- x;\ny <- 1;".toList
    let shouted := "DEFINIR X COMO ENTERO;\nx <- Σ; y <- X;\nY <- 1;".toList
    SameLetters spoken shouted ∧
    (grade spoken [] (some .pseint)).details.faults.map (fun fault => (fault.line, fault.kind)) =
      [(3, .naming)] ∧
    (grade shouted [] (some .pseint)).details.faults.map (fun fault => (fault.line, fault.kind)) =
      [(3, .naming)] := by
  intro spoken shouted
  have hletters : SameLetters spoken shouted := by
    unfold SameLetters
    decide +kernel
  have hfaults : (grade spoken [] (some .pseint)).details.faults.map
      (fun fault => (fault.line, fault.kind)) = [(3, .naming)] := by
    decide +kernel
  exact ⟨hletters, hfaults, (grade_pseint_of_sameLetters hletters [] {}).2.2.symm.trans hfaults⟩

end Autograder.Proofs
