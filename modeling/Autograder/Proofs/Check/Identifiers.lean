import Autograder.Proofs.Check.Directives
import Autograder.Proofs.Check.Shapes
import Autograder.Proofs.Text.Places

/-!
# Where identifiers are used

An identifier is a word that starts with an ASCII letter or an underscore. The identifiers in the
rows that are not for the preprocessor are found from left to right, each use once.
-/

namespace Autograder.Proofs

open Autograder.Check Autograder.Text

/-- An ASCII letter or an underscore, and word characters of any script. -/
def plainIdentifier : Shape := fun s =>
  ∃ c rest, s = c :: rest ∧ isIdentStart c = true ∧ ∀ d ∈ rest, isWord d = true

/-- The identifier stands at the place, and the row is not for the preprocessor. -/
structure IsUsedAt (masked name : List Char) (place : Nat) : Prop where
  stands : StandsAt masked name place
  identifier : plainIdentifier name
  program : ¬ IsDirective (rowAt masked place)

section Use

variable {row s t name : List Char} {place : Nat}

lemma isWord_of_plainIdentifier (h : plainIdentifier s) : s ≠ [] ∧ ∀ c ∈ s, isWord c = true := by
  obtain ⟨c, others, rfl, hstart, hothers⟩ := h
  exact ⟨List.cons_ne_nil _ _, List.forall_mem_cons.mpr ⟨isWord_of_isIdentStart hstart, hothers⟩⟩

lemma plainIdentifier_iff (h : ∀ c ∈ s, isWord c = true) :
    plainIdentifier s ↔ s.head?.any isIdentStart = true := by
  constructor
  · rintro ⟨c, rest, rfl, hstart, -⟩
    exact hstart
  · intro hstart
    cases s with
    | nil => cases hstart
    | cons c rest => exact ⟨c, rest, rfl, hstart, (List.forall_mem_cons.mp h).2⟩

lemma isUsedAt_row (h : '\n' ∉ row) : IsUsedAt row name place ↔
    (StandsAt row name place ∧ name.head?.any isIdentStart = true) ∧ ¬ IsDirective row := by
  constructor
  · rintro ⟨hstands, hidentifier, hprogram⟩
    rw [rowAt_row h] at hprogram
    obtain ⟨-, hletters⟩ := isWord_of_plainIdentifier hidentifier
    exact ⟨⟨hstands, (plainIdentifier_iff hletters).mp hidentifier⟩, hprogram⟩
  · rintro ⟨⟨hstands, hstart⟩, hprogram⟩
    have hletters : ∀ c ∈ name, isWord c = true := by
      obtain ⟨_, _, -, -, hwhole⟩ := hstands
      exact hwhole.letters
    refine ⟨hstands, (plainIdentifier_iff hletters).mpr hstart, ?_⟩
    rwa [rowAt_row h]

lemma isUsedAt_append_newline : IsUsedAt (s ++ '\n' :: t) name place ↔
    IsUsedAt s name place ∨ ∃ m, place = s.length + 1 + m ∧ IsUsedAt t name m := by
  have hcut : StandsAt (s ++ '\n' :: t) name place ↔
      StandsAt s name place ∨ ∃ m, place = s.length + 1 + m ∧ StandsAt t name m :=
    standsAt_append_cons (by decide)
  constructor
  · rintro ⟨hstands, hidentifier, hprogram⟩
    rcases hcut.mp hstands with hfirst | ⟨m, rfl, hrest⟩
    · rw [rowAt_before (lt_length_of_standsAt hfirst).le] at hprogram
      exact .inl ⟨hfirst, hidentifier, hprogram⟩
    · rw [rowAt_behind] at hprogram
      exact .inr ⟨m, rfl, hrest, hidentifier, hprogram⟩
  · rintro (⟨hfirst, hidentifier, hprogram⟩ | ⟨m, rfl, hrest, hidentifier, hprogram⟩)
    · refine ⟨hcut.mpr (.inl hfirst), hidentifier, ?_⟩
      rwa [rowAt_before (lt_length_of_standsAt hfirst).le]
    · refine ⟨hcut.mpr (.inr ⟨m, rfl, hrest⟩), hidentifier, ?_⟩
      rwa [rowAt_behind]

lemma identifiers_append_newline (s t : List Char) :
    C.identifiers (s ++ '\n' :: t) = C.identifiers s ++ C.identifiers t := by
  simp only [identifiers_eq_segments, segments_append_newline, List.filter_append,
    List.flatMap_append]

lemma identifiers_row (h : '\n' ∉ row) : C.identifiers row =
    if IsDirective row then [] else (words row).filter fun word => word.head?.any isIdentStart := by
  rw [identifiers_eq_segments, segments_eq_singleton h]
  split_ifs with hprogram
  · simp [hprogram]
  · simp [hprogram]

lemma exists_lists_identifiers_row (h : '\n' ∉ row) :
    ∃ found, found.map Prod.fst = C.identifiers row ∧ Lists found (IsUsedAt row) := by
  have huse : IsUsedAt row = fun name place =>
      (StandsAt row name place ∧ name.head?.any isIdentStart = true) ∧ ¬ IsDirective row := by
    funext name place
    exact propext (isUsedAt_row h)
  rw [huse, identifiers_row h]
  split_ifs with hprogram
  · exact ⟨[], rfl, .nil, fun name place => by simp [hprogram]⟩
  · obtain ⟨found, hfound, hlists⟩ := exists_lists_words row
    refine ⟨_, ?_, by simpa [hprogram] using lists_filter hlists (·.head?.any isIdentStart)⟩
    rw [← hfound, List.filter_map]
    rfl

theorem exists_lists_identifiers (masked : List Char) :
    ∃ found, found.map Prod.fst = C.identifiers masked ∧ Lists found (IsUsedAt masked) := by
  induction masked using rowInduction with
  | last row h => exact exists_lists_identifiers_row h
  | more row rest h ih =>
    obtain ⟨found, hfound, hlists⟩ := exists_lists_identifiers_row h
    obtain ⟨others, hothers, hrest⟩ := ih
    refine ⟨found ++ others.map fun p => (p.1, row.length + 1 + p.2), ?_, ?_⟩
    · rw [identifiers_append_newline, List.map_append, hfound, List.map_map, ← hothers]
      rfl
    · have happend := lists_append hlists hrest (n := row.length + 1) fun name place huse =>
        Nat.lt_succ_of_lt (lt_length_of_standsAt huse.stands)
      simpa only [← isUsedAt_append_newline] using happend

end Use

end Autograder.Proofs
