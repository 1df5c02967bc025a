import Autograder.Proofs.Source.Comments
import Autograder.Proofs.Source.NormalForm
import Autograder.Proofs.Text.Marks

/-!
# The texts in normal form

A text is in normal form exactly if it is evenly spaced, holds no comment and is in lowercase. The
later stages of normalizing cannot bring a comment back, because they keep slashes and asterisks and
put no two of them together that were apart; and lowercasing keeps the spaces.
-/

namespace Autograder.Proofs

open Autograder.Text Autograder.Source

/-- Evenly spaced, without comments, and in lowercase. -/
structure IsNormal (s : List Char) : Prop extends IsSpaced s where
  noLineComment : ¬ HasLineComment s
  noBlockComment : ¬ HasBlockComment s
  lower : lowercase s = s

section KeptMarks

variable {isMark : Char → Bool} {s t : List Char}

lemma not_hasLineComment_of_keepsMarks (h : KeepsMarks isMark s t) (hslash : isMark '/' = true)
    (hs : ¬ HasLineComment s) : ¬ HasLineComment t :=
  fun ht => hs (pair_infix_of_keepsMarks h hslash hslash ht)

lemma not_hasBlockComment_of_keepsMarks (h : KeepsMarks isMark s t) (hslash : isMark '/' = true)
    (hstar : isMark '*' = true) (hs : ¬ HasBlockComment s) : ¬ HasBlockComment t := by
  rintro ⟨before, rest, heq, hclose⟩
  obtain ⟨before', others, rfl, hothers⟩ := exists_of_keepsMarks_append h heq hslash
  obtain ⟨rest', rfl, hrest⟩ := exists_of_keepsMarks_cons hothers rfl hstar
  exact hs ⟨before', rest', rfl, pair_infix_of_keepsMarks hrest hstar hslash hclose⟩

end KeptMarks

section Trim

variable {s t : List Char}

lemma not_hasBlockComment_of_infix (h : t <:+: s) (hs : ¬ HasBlockComment s) :
    ¬ HasBlockComment t := by
  rintro ⟨before, rest, rfl, hclose⟩
  obtain ⟨first, last, rfl⟩ := h
  exact hs ⟨first ++ before, rest ++ last, by simp, hclose.trans ⟨[], last, by simp⟩⟩

end Trim

/-- The marks that lowercasing keeps and that a normal form is described by. -/
def isLayoutMark (c : Char) : Bool :=
  c == ' ' || c == '/' || c == '*'

lemma keepsMarks_lowercase (s : List Char) : KeepsMarks isLayoutMark s (lowercase s) := by
  refine keepsMarks_lowercaseAfter (fun c hc => ?_) [] s
  simp only [isLayoutMark, Bool.or_eq_true, beq_iff_eq] at hc
  obtain (rfl | rfl) | rfl := hc
  · exact ⟨by decide, isLower_of_isAscii (by decide) (by decide)⟩
  · exact ⟨by decide, isLower_of_isAscii (by decide) (by decide)⟩
  · exact ⟨by decide, isLower_of_isAscii (by decide) (by decide)⟩

lemma isSpaced_lowercase {s : List Char} (h : IsSpaced s) : IsSpaced (lowercase s) where
  spaces c hc hblank := h.spaces c (mem_of_mem_lowercase hc (isPlain_of_isBlank hblank)) hblank
  single hpair := h.single (pair_infix_of_keepsMarks (keepsMarks_lowercase s) rfl rfl hpair)
  start hstart := by
    obtain ⟨rest, hsplit⟩ := List.head?_eq_some_iff.mp hstart
    obtain ⟨rest', rfl, -⟩ := exists_of_keepsMarks_cons (keepsMarks_lowercase s) hsplit rfl
    exact h.start rfl
  stop hstop := by
    obtain ⟨before, hsplit⟩ := List.getLast?_eq_some_iff.mp hstop
    obtain ⟨before', rest, rfl, hrest⟩ :=
      exists_of_keepsMarks_append (keepsMarks_lowercase s) hsplit rfl
    -- nothing is rewritten to nothing, so the space was the last character before, too
    obtain rfl : rest = [] := eq_nil_of_keepsMarks_nil hrest rfl
    exact h.stop (by simp)

theorem isNormal_normalize (s : List Char) : IsNormal (normalize s) := by
  have hline := not_hasLineComment_dropLineComments s
  obtain ⟨hline, hblock⟩ := not_comments_dropBlockCommentsFrom false hline
  have hcollapse := keepsMarks_collapseBlanks (dropBlockComments (dropLineComments s))
  have hline := not_hasLineComment_of_keepsMarks hcollapse rfl hline
  have hblock := not_hasBlockComment_of_keepsMarks hcollapse rfl rfl hblock
  have hline := fun h : HasLineComment _ => hline (h.trans (trim_isInfix _))
  have hblock := not_hasBlockComment_of_infix (trim_isInfix _) hblock
  exact {
    toIsSpaced := isSpaced_lowercase (isSpaced_trim_collapseBlanks _)
    noLineComment := not_hasLineComment_of_keepsMarks (keepsMarks_lowercase _) rfl hline
    noBlockComment := not_hasBlockComment_of_keepsMarks (keepsMarks_lowercase _) rfl rfl hblock
    lower := lowercase_lowercase _ }

theorem normalize_eq_self_of_isNormal {s : List Char} (h : IsNormal s) : normalize s = s := by
  rw [Source.normalize, dropLineComments_eq_self h.noLineComment,
    dropBlockComments_eq_self h.noBlockComment, trim_collapseBlanks_eq_self h.toIsSpaced, h.lower]

lemma length_lines_normalize_le (s : List Char) : (lines (normalize s)).length ≤ 1 := by
  by_cases h : normalize s = []
  · simp [h, lines]
  · simp [lines_normalize h]

/-- Normalizing gives a text in normal form and changes no such text. So it is idempotent, its
results are the texts that it leaves alone, and each of them is at most one line. -/
theorem normalize_eq_self_iff_isNormal (s : List Char) :
    IsNormal (normalize s) ∧ (normalize s = s ↔ IsNormal s) ∧
      normalize (normalize s) = normalize s ∧ Set.range normalize = {t | normalize t = t} ∧
      (lines (normalize s)).length ≤ 1 := by
  have hidem (t : List Char) : normalize (normalize t) = normalize t :=
    normalize_eq_self_of_isNormal (isNormal_normalize t)
  refine ⟨isNormal_normalize s, ⟨fun h => ?_, normalize_eq_self_of_isNormal⟩, hidem s, ?_,
    length_lines_normalize_le s⟩
  · rw [← h]
    exact isNormal_normalize s
  · ext t
    constructor
    · rintro ⟨u, rfl⟩
      exact hidem u
    · intro h
      exact ⟨t, h⟩

end Autograder.Proofs
