import Autograder.Proofs.Source.Scan
import Autograder.Proofs.Text.SameLines

/-!
# The visible lines of a masked text

Blanks mean nothing to the scan, and at the end of a row only a block comment goes on, unless a
backslash escapes the newline inside a literal. So the visible lines of a masked text are those of
the text, masked one after the other.
-/

namespace Autograder.Proofs

open Autograder.Text Autograder.Source

/-- The state behind the newline that ends a row. -/
def nextRow : MaskState → MaskState
  | .blockComment => .blockComment
  | _ => .code

/-- Numbered lines masked one after the other, without those that show nothing any more. -/
def maskLines (state : MaskState) : List (List Char × Nat) → List (List Char × Nat)
  | [] => []
  | (line, n) :: others =>
    numberedRows n [maskFrom state line] ++ maskLines (nextRow (stateAfter state line)) others

section Blank

variable {state : MaskState} {c d : Char} {s t blanks : List Char}

lemma isPair_of_isBlank (h : isBlank c = true) : isPair state c d = false := by
  have hslash : c ≠ '/' := ne_of_isBlank h (by decide)
  have hstar : c ≠ '*' := ne_of_isBlank h (by decide)
  have hescape : c ≠ '\\' := ne_of_isBlank h (by decide)
  cases state <;> simp [isPair, hslash, hstar, hescape]

lemma isPair_isBlank (hc : c ≠ '\\') (hd : isBlank d = true) : isPair state c d = false := by
  have hslash : d ≠ '/' := ne_of_isBlank hd (by decide)
  have hstar : d ≠ '*' := ne_of_isBlank hd (by decide)
  cases state <;> simp [isPair, hslash, hstar, hc]

lemma isBlank_shown {p : Char × Role} (h : isBlank p.1 = true) : isBlank (shown p) = true := by
  obtain ⟨c, role⟩ := p
  cases role with
  | code => exact h
  | literal | comment =>
    simp only [shown, blankOut]
    split_ifs <;> decide

lemma shown_eq_newline_iff {p : Char × Role} : shown p = '\n' ↔ p.1 = '\n' := by
  obtain ⟨c, role⟩ := p
  cases role with
  | code => rfl
  | literal | comment => simp [shown, blankOut]

lemma newline_mem_maskFrom_iff : '\n' ∈ maskFrom state s ↔ '\n' ∈ s := by
  conv_rhs => rw [← map_fst_roles state s]
  simp only [maskFrom_eq_map_shown, List.mem_map, shown_eq_newline_iff]

lemma isBlank_of_mem_maskFrom (h : ∀ c ∈ blanks, isBlank c = true)
    (hc : c ∈ maskFrom state blanks) : isBlank c = true := by
  rw [maskFrom_eq_map_shown] at hc
  obtain ⟨p, hp, rfl⟩ := List.mem_map.mp hc
  have hfst := List.mem_map_of_mem (f := Prod.fst) hp
  rw [map_fst_roles] at hfst
  exact isBlank_shown (h p.1 hfst)

lemma stateAfter_of_isBlank (h : isBlank c = true) (s : List Char) :
    stateAfter state (c :: s) = stateAfter (readOne state c).2 s :=
  stateAfter_one fun _ _ => isPair_of_isBlank h

lemma not_isQuote_of_isBlank (h : isBlank c = true) : isQuote c = false := by
  have hdouble : c ≠ '"' := ne_of_isBlank h (by decide)
  have hsingle : c ≠ '\'' := ne_of_isBlank h (by decide)
  simp [isQuote, hdouble, hsingle]

lemma readOne_of_isBlank (hstate : nextRow state = state) (h : isBlank c = true) :
    (readOne state c).2 = state := by
  cases state with
  | code => simp [readOne, not_isQuote_of_isBlank h]
  | blockComment => rfl
  | lineComment | literal => cases hstate

lemma nextRow_readOne (h : isBlank c = true) : nextRow (readOne state c).2 = nextRow state := by
  cases state with
  | code => rw [readOne_of_isBlank rfl h]
  | blockComment => rfl
  | lineComment | literal =>
    simp only [readOne]
    split_ifs <;> rfl

lemma stateAfter_blanks (hstate : nextRow state = state) (h : ∀ c ∈ blanks, isBlank c = true) :
    stateAfter state blanks = state := by
  induction blanks with
  | nil => rfl
  | cons c rest ih =>
    obtain ⟨hc, hrest⟩ := List.forall_mem_cons.mp h
    rw [stateAfter_of_isBlank hc, readOne_of_isBlank hstate hc, ih hrest]

/-- Blanks at the end of a row may change the state, but not the one behind the row. -/
lemma nextRow_stateAfter_blanks (h : ∀ c ∈ blanks, isBlank c = true) :
    nextRow (stateAfter state blanks) = nextRow state := by
  induction blanks generalizing state with
  | nil => rfl
  | cons c rest ih =>
    obtain ⟨hc, hrest⟩ := List.forall_mem_cons.mp h
    rw [stateAfter_of_isBlank hc, ih hrest, nextRow_readOne hc]

lemma isCut_of_blanks (h : ∀ c ∈ blanks, isBlank c = true) (s : List Char) :
    IsCut state blanks s :=
  fun _ hc _ _ => isPair_of_isBlank (h _ (List.mem_of_mem_getLast? hc))

lemma isCut_blank (hs : s.getLast? ≠ some '\\') (ht : ∀ c ∈ t.head?, isBlank c = true) :
    IsCut state s t := by
  intro c hc d hd
  refine isPair_isBlank ?_ (ht d hd)
  rintro rfl
  exact hs hc

end Blank

section Row

variable {state : MaskState} {row rest : List Char}

lemma maskFrom_trim (hstate : nextRow state = state) (hrow : (trim row).getLast? ≠ some '\\') :
    trim (maskFrom state row) = trim (maskFrom state (trim row)) ∧
      nextRow (stateAfter state row) = nextRow (stateAfter state (trim row)) := by
  obtain ⟨before, after, hsplit, hbefore, hafter⟩ := exists_blanks_trim row
  have hstart : IsCut state before (trim row ++ after) := isCut_of_blanks hbefore _
  have hstop : IsCut state (trim row) after :=
    isCut_blank hrow fun c hc => hafter c (List.mem_of_mem_head? hc)
  have hblanks : stateAfter state before = state := stateAfter_blanks hstate hbefore
  constructor
  · conv_lhs => rw [hsplit, maskFrom_append hstart, hblanks, maskFrom_append hstop]
    rw [trim_blanks_append fun _ hc => isBlank_of_mem_maskFrom hbefore hc,
      trim_append_blanks fun _ hc => isBlank_of_mem_maskFrom hafter hc]
  · conv_lhs => rw [hsplit, stateAfter_append hstart, hblanks, stateAfter_append hstop]
    exact nextRow_stateAfter_blanks hafter

lemma getLast?_ne_of_trim {c : Char} (hc : isBlank c = false) (h : (trim row).getLast? ≠ some c) :
    row.getLast? ≠ some c := by
  intro hlast
  obtain ⟨before, after, hsplit, hbefore, hafter⟩ := exists_blanks_trim row
  rw [hsplit, List.getLast?_append, List.getLast?_append, Option.or_eq_some_iff,
    Option.or_eq_some_iff] at hlast
  rcases hlast with (hlast | ⟨-, hlast⟩) | ⟨-, hlast⟩
  · exact absurd hc (by simp [hafter c (List.mem_of_mem_getLast? hlast)])
  · exact h hlast
  · exact absurd hc (by simp [hbefore c (List.mem_of_mem_getLast? hlast)])

/-- A row is masked by itself, and what follows it in the state that the row leaves behind. -/
lemma maskFrom_row_append (hrow : row.getLast? ≠ some '\\') (rest : List Char) :
    maskFrom state (row ++ '\n' :: rest) =
      maskFrom state row ++ '\n' :: maskFrom (nextRow (stateAfter state row)) rest := by
  rw [maskFrom_append (isCut_blank hrow (by simp; decide)),
    maskFrom_one fun _ _ => isPair_of_isBlank (by decide), shown_eq_newline_iff.mpr rfl]
  cases stateAfter state row <;> rfl

lemma maskLines_numberedRows_cons {n : Nat} (hstate : nextRow state = state)
    (hrow : (trim row).getLast? ≠ some '\\') (rows : List (List Char)) :
    maskLines state (numberedRows n (row :: rows)) = numberedRows n [maskFrom state row] ++
      maskLines (nextRow (stateAfter state row)) (numberedRows (n + 1) rows) := by
  obtain ⟨hvisible, hnext⟩ := maskFrom_trim hstate hrow
  have hmasked : numberedRows n [maskFrom state row] = numberedRows n [maskFrom state (trim row)] :=
    numberedRows_cons_congr hvisible rfl
  rw [hmasked, hnext, numberedRows_cons n row, numberedRows_singleton n row]
  by_cases hempty : trim row = []
  · -- a blank row shows nothing, and leaves the state that a row can start in as it is
    rw [hempty]
    cases state with
    | code | blockComment => rfl
    | lineComment | literal => cases hstate
  · rw [if_neg (by simpa using hempty)]
    rfl

lemma getLast?_ne_of_forall_mem_numberedRows {c : Char} {n : Nat} {rows : List (List Char)}
    (h : ∀ p ∈ numberedRows n (row :: rows), p.1.getLast? ≠ some c) :
    (trim row).getLast? ≠ some c ∧ ∀ p ∈ numberedRows (n + 1) rows, p.1.getLast? ≠ some c := by
  rw [numberedRows_cons, List.forall_mem_append] at h
  refine ⟨?_, h.2⟩
  by_cases hempty : trim row = []
  · simp [hempty]
  · exact h.1 (trim row, n) (by simp [numberedRows_singleton, hempty])

theorem numberedRows_maskFrom {n : Nat} (hstate : nextRow state = state) (s : List Char)
    (hs : ∀ p ∈ numberedRows n (segments s), p.1.getLast? ≠ some '\\') :
    numberedRows n (segments (maskFrom state s)) =
      maskLines state (numberedRows n (segments s)) := by
  -- row by row; the invariant is that the state is one that a row can start in
  induction s using rowInduction generalizing n state with
  | last row hrow =>
    rw [segments_eq_singleton hrow] at hs ⊢
    rw [segments_eq_singleton (newline_mem_maskFrom_iff.not.mpr hrow),
      maskLines_numberedRows_cons hstate (getLast?_ne_of_forall_mem_numberedRows hs).1]
    exact (List.append_nil _).symm
  | more row rest hrow ih =>
    rw [segments_row_append hrow] at hs ⊢
    obtain ⟨hlast, hothers⟩ := getLast?_ne_of_forall_mem_numberedRows hs
    have hnext : nextRow (nextRow (stateAfter state row)) = nextRow (stateAfter state row) := by
      cases stateAfter state row <;> rfl
    rw [maskFrom_row_append (getLast?_ne_of_trim (by decide) hlast),
      segments_row_append (newline_mem_maskFrom_iff.not.mpr hrow),
      maskLines_numberedRows_cons hstate hlast, numberedRows_cons, ih hnext hothers]

end Row

section Aligned

variable {R : Nat → Nat → Prop} {items items' : List (List Char × Nat)} {s t : List Char}

lemma aligned_maskLines (h : Aligned R items items') (state : MaskState) :
    Aligned R (maskLines state items) (maskLines state items') := by
  induction h generalizing state with
  | nil => exact .nil
  | @cons p q _ _ hitem _ ih =>
    obtain ⟨line, m⟩ := p
    obtain ⟨line', n⟩ := q
    obtain ⟨rfl, hnumber⟩ : line = line' ∧ R m n := hitem
    exact aligned_append (aligned_numberedRows hnumber _) (ih _)

theorem aligned_visibleLines_mask (h : SameLines s t)
    (hs : ∀ p ∈ visibleLines s, p.1.getLast? ≠ some '\\') :
    Aligned (SameLine s t) (visibleLines (mask s)) (visibleLines (mask t)) := by
  have haligned := aligned_visibleLines h
  have ht : ∀ p ∈ visibleLines t, p.1.getLast? ≠ some '\\' := by
    intro p hp
    have hline := List.mem_map_of_mem (f := Prod.fst) hp
    rw [← map_fst_eq_of_aligned haligned] at hline
    obtain ⟨q, hq, heq⟩ := List.mem_map.mp hline
    rw [← heq]
    exact hs q hq
  rw [visibleLines_eq_segments] at hs ht haligned
  rw [visibleLines_eq_segments] at haligned
  rw [visibleLines_eq_segments, visibleLines_eq_segments, mask, mask,
    numberedRows_maskFrom rfl s hs, numberedRows_maskFrom rfl t ht]
  exact aligned_maskLines haligned .code

end Aligned

end Autograder.Proofs
