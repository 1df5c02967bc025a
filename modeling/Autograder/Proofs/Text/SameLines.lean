import Autograder.Proofs.Text.Rows

/-!
# Texts with the same visible lines

Two texts that show the same lines may number them differently. What is said of a line of the one
holds of the line at the same place in the other, and a pass over numbered lines that does not look
at the numbers passes the correspondence on.
-/

namespace Autograder.Proofs

open Autograder.Text

/-- The visible lines of a text without their numbers. -/
def lineTexts (s : List Char) : List (List Char) :=
  (visibleLines s).map Prod.fst

/-- The texts show the same lines in the same order. -/
def SameLines (s t : List Char) : Prop :=
  lineTexts s = lineTexts t

/-- The numbers that two texts give to the same visible line. -/
def SameLine (s t : List Char) (m n : Nat) : Prop :=
  ∃ (place : Nat) (line : List Char),
    (visibleLines s)[place]? = some (line, m) ∧ (visibleLines t)[place]? = some (line, n)

/-- The same items, with numbers that correspond. -/
def Aligned {α : Type} (R : Nat → Nat → Prop) : List (α × Nat) → List (α × Nat) → Prop :=
  List.Forall₂ fun p q => p.1 = q.1 ∧ R p.2 q.2

section LineTexts

variable {row : List Char}

lemma lineTexts_eq (s : List Char) :
    lineTexts s = ((segments s).map trim).filter fun line => !line.isEmpty := by
  rw [lineTexts, visibleLines_eq_segments, map_fst_numberedRows]

lemma lineTexts_append_newline (s t : List Char) :
    lineTexts (s ++ '\n' :: t) = lineTexts s ++ lineTexts t := by
  simp only [lineTexts_eq, segments_append_newline, List.map_append, List.filter_append]

lemma lineTexts_row (h : '\n' ∉ row) :
    lineTexts row = if trim row = [] then [] else [trim row] := by
  rw [lineTexts_eq, segments_eq_singleton h, List.map_singleton, List.filter_cons]
  by_cases hempty : trim row = [] <;> simp [hempty]

end LineTexts

section Aligned

variable {α β : Type} {R : Nat → Nat → Prop} {items items' others others' : List (α × Nat)}

lemma map_fst_eq_of_aligned (h : Aligned R items items') :
    items.map Prod.fst = items'.map Prod.fst := by
  induction h with
  | nil => rfl
  | cons hitem _ ih => rw [List.map_cons, List.map_cons, hitem.1, ih]

lemma aligned_append (h : Aligned R items items') (hothers : Aligned R others others') :
    Aligned R (items ++ others) (items' ++ others') :=
  List.rel_append h hothers

lemma aligned_filterMap (f : α → Option β) (h : Aligned R items items') :
    Aligned R (items.filterMap fun p => (f p.1).map (·, p.2))
      (items'.filterMap fun p => (f p.1).map (·, p.2)) := by
  refine List.rel_filterMap ?_ h
  rintro ⟨item, m⟩ ⟨-, n⟩ ⟨rfl, hnumber⟩
  cases hf : f item with
  | none =>
    simp only [hf, Option.map_none]
    exact .none
  | some b =>
    simp only [hf, Option.map_some]
    exact .some ⟨rfl, hnumber⟩

lemma aligned_numberedRows {m n : Nat} (h : R m n) (row : List Char) :
    Aligned R (numberedRows m [row]) (numberedRows n [row]) := by
  rw [numberedRows_singleton, numberedRows_singleton]
  split_ifs
  · exact .nil
  · exact .cons ⟨rfl, h⟩ .nil

end Aligned

lemma aligned_visibleLines {s t : List Char} (h : SameLines s t) :
    Aligned (SameLine s t) (visibleLines s) (visibleLines t) := by
  unfold SameLines lineTexts at h
  have hlength : (visibleLines s).length = (visibleLines t).length := by
    simpa using congrArg List.length h
  refine List.forall₂_iff_get.mpr ⟨hlength, fun k hs ht => ?_⟩
  have hline : (visibleLines s)[k].1 = (visibleLines t)[k].1 := by
    have := congrArg (·[k]?) h
    simpa [hs, ht] using this
  refine ⟨hline, k, (visibleLines s)[k].1, List.getElem?_eq_getElem hs, ?_⟩
  rw [hline]
  exact List.getElem?_eq_getElem ht

end Autograder.Proofs
