import Autograder.Comparison
import Autograder.Proofs.Text.Lines

/-!
# Comparing texts of one line

Two texts without newlines are compared as wholes: they have one line in common, or one line in
which they differ, or no line at all if both are empty.
-/

namespace Autograder.Proofs

open Autograder.Text

lemma similarityOf_one_one : Comparison.similarityOf 1 1 = 100.0 := by
  decide +kernel

lemma similarityOf_zero_one : Comparison.similarityOf 0 1 = 0.0 := by
  decide +kernel

lemma similarityOf_zero_zero : Comparison.similarityOf 0 0 = 0.0 :=
  rfl

lemma pairFrom_lines_of_newline_notMem {a b : List Char} (ha : '\n' ∉ a) (hb : '\n' ∉ b)
    (hne : ¬ (a = [] ∧ b = [])) :
    Comparison.pairFrom 1 (lines a) (lines b) = [⟨1, a, b⟩] := by
  rcases eq_or_ne a [] with rfl | ha'
  · have hb' : b ≠ [] := fun h => hne ⟨rfl, h⟩
    rw [lines_eq_singleton hb' hb]
    simp [lines, Comparison.pairFrom]
  · rw [lines_eq_singleton ha' ha]
    rcases eq_or_ne b [] with rfl | hb'
    · simp [lines, Comparison.pairFrom]
    · rw [lines_eq_singleton hb' hb]
      simp [Comparison.pairFrom]

lemma ofTexts_nil_nil : Comparison.ofTexts [] [] = ⟨0.0, [], []⟩ := by
  simp [Comparison.ofTexts, lines, Comparison.pairFrom, similarityOf_zero_zero]

theorem ofTexts_self {a : List Char} (ha : '\n' ∉ a) (hne : a ≠ []) :
    Comparison.ofTexts a a = ⟨100.0, [⟨1, String.ofList a⟩], []⟩ := by
  have hpair := pairFrom_lines_of_newline_notMem ha ha (fun h => hne h.1)
  simp [Comparison.ofTexts, hpair, similarityOf_one_one]

theorem ofTexts_of_ne {a b : List Char} (ha : '\n' ∉ a) (hb : '\n' ∉ b) (hne : a ≠ b) :
    Comparison.ofTexts a b = ⟨0.0, [], [⟨1, String.ofList b, String.ofList a⟩]⟩ := by
  have hpair := pairFrom_lines_of_newline_notMem ha hb (fun h => hne (h.1.trans h.2.symm))
  simp [Comparison.ofTexts, hpair, hne, similarityOf_zero_one]

end Autograder.Proofs
