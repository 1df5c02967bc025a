import Autograder.Pattern.Basic
import Autograder.Proofs.Language.Detection
import Autograder.Proofs.Pattern.Matching

/-!
# Signatures as patterns

The signatures of PSeInt are patterns of words and literals. Between word boundaries a word is found
where it stands complete, so the readers of words agree with the search for the patterns.
-/

namespace Autograder.Proofs

open Autograder.Pattern Autograder.Text

/-- A word between two word boundaries. -/
def wordPattern (word : List Char) : Node :=
  .seq (.anchor .wordBoundary false) (.seq (.literal word) (.anchor .wordBoundary false))

section Words

variable {s before part after word : List Char} {signature : Signature}

lemma matches_boundary_iff : Matches (.anchor .wordBoundary false) before part after ↔
    part = [] ∧ before.getLast?.any isWord ≠ after.head?.any isWord := by
  simp [Matches, Anchor.holds]

lemma any_isWord_eq_false_iff {c : Option Char} :
    c.any isWord = false ↔ ∀ d ∈ c, isWord d = false := by
  cases c <;> simp

/-- A match between word boundaries cannot be continued on either side. -/
lemma matches_wordPattern_iff (hne : word ≠ []) (hword : ∀ c ∈ word, isWord c = true) :
    Matches (wordPattern word) before part after ↔ part = word ∧ IsWholeWord before word after := by
  have hfirst : (word ++ after).head?.any isWord = true := by
    obtain ⟨c, rest, rfl⟩ := List.exists_cons_of_ne_nil hne
    exact hword c List.mem_cons_self
  have hlast : (before ++ word).getLast?.any isWord = true := by
    rw [List.getLast?_append_of_ne_nil _ hne, List.getLast?_eq_some_getLast hne]
    exact hword _ (List.getLast_mem hne)
  constructor
  · rintro ⟨_, _, rfl, hstart, third, _, rfl, hthird, hstop⟩
    obtain rfl : third = word := hthird
    obtain ⟨rfl, hbefore⟩ := matches_boundary_iff.mp hstart
    obtain ⟨rfl, hafter⟩ := matches_boundary_iff.mp hstop
    rw [List.append_nil, hfirst, ne_eq, Bool.not_eq_true] at hbefore
    rw [List.append_nil, hlast, ne_comm, ne_eq, Bool.not_eq_true] at hafter
    exact ⟨by simp, hne, hword, any_isWord_eq_false_iff.mp hbefore,
      any_isWord_eq_false_iff.mp hafter⟩
  · rintro ⟨rfl, hwhole⟩
    refine ⟨[], part, rfl, matches_boundary_iff.mpr ⟨rfl, ?_⟩, part, [], by simp, rfl,
      matches_boundary_iff.mpr ⟨rfl, ?_⟩⟩
    · rw [hfirst, any_isWord_eq_false_iff.mpr hwhole.start]
      exact Bool.false_ne_true
    · rw [List.append_nil, hlast, any_isWord_eq_false_iff.mpr hwhole.stop]
      exact Bool.false_ne_true.symm

lemma occursIn_wordPattern_iff (hne : word ≠ []) (hword : ∀ c ∈ word, isWord c = true) :
    (wordPattern word).occursIn s = true ↔ ∃ place, StandsAt s word place := by
  rw [occursIn_iff_matches]
  simp only [matches_wordPattern_iff hne hword]
  constructor
  · rintro ⟨before, _, after, rfl, rfl, hwhole⟩
    exact ⟨before.length, before, after, rfl, rfl, hwhole⟩
  · rintro ⟨_, before, after, rfl, rfl, hwhole⟩
    exact ⟨before, word, after, rfl, rfl, hwhole⟩

lemma occursIn_literal_iff {text : String} :
    (Node.literal text.toList).occursIn s = true ↔ somewhere (exactly text) s :=
  occursIn_iff_matches _ s

theorem occursIn_pattern_iff_of_pseint (h : signature ∈ Language.pseint.signatures)
    (s : List Char) : ∃ node, Pattern.parse signature.shape.pattern = .ok node ∧
      (node.occursIn s = true ↔ shows signature.shape s) := by
  have hwords : ∀ word ∈ ["Definir", "Como", "Proceso", "FinProceso", "Escribir", "Leer"],
      Pattern.parse (Shape.word word).pattern = .ok (wordPattern word.toList) ∧
        word.toList ≠ [] ∧ word.toList.all isWord = true := by
    decide +kernel
  have harrow : Pattern.parse (Shape.literal "<-").pattern = .ok (.literal "<-".toList) := by
    decide +kernel
  have hshape : (∃ word ∈ ["Definir", "Como", "Proceso", "FinProceso", "Escribir", "Leer"],
      signature.shape = .word word) ∨ signature.shape = .literal "<-" := by
    fin_cases h <;> simp
  rcases hshape with ⟨word, hmem, hshape⟩ | hshape
  · obtain ⟨hparse, hne, hletters⟩ := hwords word hmem
    rw [hshape]
    exact ⟨_, hparse, occursIn_wordPattern_iff hne (List.all_eq_true.mp hletters)⟩
  · rw [hshape]
    exact ⟨_, harrow, occursIn_literal_iff⟩

end Words

end Autograder.Proofs
