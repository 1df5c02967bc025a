import Autograder.Check.C
import Autograder.Proofs.Source.LineComments

/-!
# Preprocessor lines

Preprocessor lines are deleted from a text together with the blanks before the `#`, which may reach
over several lines. What is deleted besides the rows that start with a `#` are blank rows, and every
row that stays keeps the newline on either side. So the words of what is left are those of the other
rows: none is lost, and none is glued to another one.
-/

namespace Autograder.Proofs

open Autograder.Check.C Autograder.Text

/-- The first visible character of a row is a `#`. -/
def IsDirective (row : List Char) : Prop :=
  (trimStart row).head? = some '#'

instance (row : List Char) : Decidable (IsDirective row) :=
  inferInstanceAs (Decidable ((trimStart row).head? = some '#'))

section Deletion

variable {row rest tail after blank : List Char}

lemma exists_of_isDirective (h : IsDirective row) :
    ∃ blank after, row = blank ++ '#' :: after ∧ ∀ c ∈ blank, isBlank c = true := by
  obtain ⟨blank, hsplit, hblank⟩ := exists_blanks_trimStart row
  obtain ⟨after, hafter⟩ := List.head?_eq_some_iff.mp h
  exact ⟨blank, after, hafter ▸ hsplit, hblank⟩

lemma isDirective_blanks_append (h : ∀ c ∈ blank, isBlank c = true) :
    IsDirective (blank ++ rest) ↔ IsDirective rest := by
  rw [IsDirective, trimStart_blanks_append h, IsDirective]

lemma isDirective_append (h : trimStart row ≠ []) :
    IsDirective (row ++ tail) ↔ IsDirective row := by
  have htrim : trimStart (row ++ tail) = trimStart row ++ tail := by
    unfold trimStart at h ⊢
    rw [List.dropWhile_append, if_neg (mt List.isEmpty_iff.mp h)]
  rw [IsDirective, IsDirective, htrim, List.head?_append_of_ne_nil _ h]

lemma dropDirectivesFrom_directive (h : '\n' ∉ row) (tail : List Char) :
    dropDirectivesFrom .directive (row ++ tail) = dropDirectivesFrom .directive tail := by
  induction row with
  | nil => rfl
  | cons c others ih =>
    rw [List.mem_cons, not_or] at h
    rw [List.cons_append, dropDirectivesFrom, if_neg (by simpa using Ne.symm h.1), ih h.2]

lemma dropDirectivesFrom_kept (h : '\n' ∉ row) :
    dropDirectivesFrom .kept (row ++ tail) = row ++ dropDirectivesFrom .kept tail := by
  induction row with
  | nil => rfl
  | cons c others ih =>
    rw [List.mem_cons, not_or] at h
    rw [List.cons_append, dropDirectivesFrom, if_neg (by simpa using Ne.symm h.1), ih h.2,
      List.cons_append]

/-- From the first blank before a `#` on, also in a row above, everything goes. -/
lemma dropDirectives_blanks_append (h : ∀ c ∈ blank, isBlank c = true) :
    dropDirectives (blank ++ '#' :: after) = dropDirectivesFrom .directive after := by
  have hleading : ∀ blank : List Char, (∀ c ∈ blank, isBlank c = true) →
      dropDirectivesFrom .leading (blank ++ '#' :: after) =
        dropDirectivesFrom .directive after := by
    intro blank hblank
    induction blank with
    | nil => rfl
    | cons c others ih =>
      obtain ⟨hc, hothers⟩ := List.forall_mem_cons.mp hblank
      have hmark : c ≠ '#' := ne_of_isBlank hc (by decide)
      rw [List.cons_append, dropDirectivesFrom, if_neg (by simpa using hmark), ih hothers]
  have hdirective : IsDirective (blank ++ '#' :: after) := by
    rw [isDirective_blanks_append h]
    rfl
  unfold dropDirectives
  cases blank with
  | nil => rfl
  | cons c others =>
    obtain ⟨hc, hothers⟩ := List.forall_mem_cons.mp h
    have hmark : c ≠ '#' := ne_of_isBlank hc (by decide)
    rw [List.cons_append] at hdirective ⊢
    rw [dropDirectivesFrom, if_pos (beq_iff_eq.mpr hdirective), if_neg (by simpa using hmark),
      hleading others hothers]

lemma dropDirectives_above (h : ∀ c ∈ blank, isBlank c = true) (hrest : IsDirective rest) :
    dropDirectives (blank ++ rest) = dropDirectives rest := by
  obtain ⟨others, after, rfl, hothers⟩ := exists_of_isDirective hrest
  rw [← List.append_assoc, dropDirectives_blanks_append (List.forall_mem_append.mpr ⟨h, hothers⟩),
    dropDirectives_blanks_append hothers]

lemma dropDirectives_append (h : '\n' ∉ row) (htail : IsRowEnd tail)
    (hkept : ¬ IsDirective (row ++ tail)) :
    dropDirectives (row ++ tail) = row ++ dropDirectivesFrom .kept tail := by
  unfold dropDirectives
  cases row with
  | nil =>
    obtain rfl | ⟨rest, rfl⟩ := htail
    · rfl
    · rw [List.nil_append] at hkept ⊢
      rw [dropDirectivesFrom, if_neg (mt beq_iff_eq.mp hkept)]
      rfl
  | cons c others =>
    rw [List.mem_cons, not_or] at h
    rw [List.cons_append] at hkept ⊢
    rw [dropDirectivesFrom, if_neg (mt beq_iff_eq.mp hkept), if_neg (by simpa using Ne.symm h.1),
      dropDirectivesFrom_kept h.2, List.cons_append]

end Deletion

theorem words_dropDirectives (s : List Char) : words (dropDirectives s) =
    ((segments s).filter fun row => ¬ IsDirective row).flatMap words := by
  have hnewline (t : List Char) : words ('\n' :: t) = words t :=
    words_append_cons (s := []) (by decide) t
  induction s using rowInduction with
  | last row hrow =>
    rw [segments_eq_singleton hrow]
    by_cases hdirective : IsDirective row
    · obtain ⟨blank, after, rfl, hblank⟩ := exists_of_isDirective hdirective
      have hafter : '\n' ∉ after := fun hmem => hrow (by simp [hmem])
      have hnothing := dropDirectivesFrom_directive hafter []
      rw [List.append_nil] at hnothing
      rw [dropDirectives_blanks_append hblank, hnothing]
      simp [hdirective, dropDirectivesFrom, words, Text.splitAt]
    · have hall : dropDirectives (row ++ []) = row ++ [] :=
        dropDirectives_append hrow (.inl rfl) (by rwa [List.append_nil])
      rw [List.append_nil] at hall
      simp [hall, hdirective]
  | more row rest hrow ih =>
    rw [segments_row_append hrow]
    by_cases hdirective : IsDirective row
    · obtain ⟨blank, after, rfl, hblank⟩ := exists_of_isDirective hdirective
      have hafter : '\n' ∉ after := fun hmem => hrow (by simp [hmem])
      have hrest : dropDirectivesFrom .directive ('\n' :: rest) = '\n' :: dropDirectives rest := rfl
      rw [List.append_assoc, List.cons_append, dropDirectives_blanks_append hblank,
        dropDirectivesFrom_directive hafter _, hrest, hnewline, ih]
      simp [hdirective]
    · rw [List.filter_cons_of_pos (by simpa using hdirective), List.flatMap_cons]
      by_cases hbelow : IsDirective (row ++ '\n' :: rest)
      · -- the row is blank, and goes with the directive below it
        have hempty : trimStart row = [] := by
          by_contra hvisible
          exact hdirective ((isDirective_append hvisible).mp hbelow)
        have hblank : ∀ c ∈ row, isBlank c = true := List.dropWhile_eq_nil_iff.mp hempty
        have hend : ∀ c ∈ row ++ ['\n'], isBlank c = true :=
          List.forall_mem_append.mpr ⟨hblank, List.forall_mem_singleton.mpr (by decide)⟩
        have hrest : IsDirective rest := by
          rwa [List.append_cons, isDirective_blanks_append hend] at hbelow
        rw [List.append_cons, dropDirectives_above hend hrest, ih, words_of_blanks hblank,
          List.nil_append]
      · rw [dropDirectives_append hrow (.inr ⟨rest, rfl⟩) hbelow]
        exact (words_append_cons (by decide) row _).trans (congrArg _ ih)

theorem identifiers_eq_segments (masked : List Char) : identifiers masked =
    ((segments masked).filter fun row => ¬ IsDirective row).flatMap fun row =>
      (words row).filter fun word => word.head?.any isIdentStart := by
  rw [identifiers, words_dropDirectives, List.filter_flatMap]

end Autograder.Proofs
