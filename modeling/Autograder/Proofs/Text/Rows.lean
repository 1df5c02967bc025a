import Autograder.Proofs.Text.Spacing
import Autograder.Text.Word

/-!
# Rows of a text

The rows of a text are its pieces between newlines. What is read row by row, without looking at
blanks on either end, is a function of the visible lines: the trimmed rows that are not blank, with
their numbers. Whether a carriage return belongs to the line end makes no difference to them.
-/

namespace Autograder.Proofs

open Autograder.Text

section Pieces

variable {p : Char → Bool} {c : Char} {s t : List Char}

lemma splitAt_ne_nil (p : Char → Bool) (s : List Char) : Text.splitAt p s ≠ [] := by
  cases s with
  | nil => simp [Text.splitAt]
  | cons c rest =>
    rw [Text.splitAt]
    split_ifs
    · simp
    · cases Text.splitAt p rest <;> simp [consFirst]

lemma consFirst_append {pieces others : List (List Char)} (h : pieces ≠ []) :
    consFirst c (pieces ++ others) = consFirst c pieces ++ others := by
  cases pieces with
  | nil => exact absurd rfl h
  | cons first rest => rfl

lemma splitAt_append_cons (hc : p c = true) (s t : List Char) :
    Text.splitAt p (s ++ c :: t) = Text.splitAt p s ++ Text.splitAt p t := by
  induction s with
  | nil => simp [Text.splitAt, hc]
  | cons d rest ih =>
    simp only [List.cons_append, Text.splitAt]
    split_ifs with hd
    · rw [ih, List.cons_append]
    · rw [ih, consFirst_append (splitAt_ne_nil p rest)]

lemma splitAt_eq_singleton (h : ∀ c ∈ s, p c = false) : Text.splitAt p s = [s] := by
  induction s with
  | nil => rfl
  | cons c rest ih =>
    obtain ⟨hc, hrest⟩ := List.forall_mem_cons.mp h
    simp [Text.splitAt, hc, ih hrest, consFirst]

/-- A text is one piece, or a piece with a separator and a shorter text behind it. -/
theorem pieceInduction (p : Char → Bool) {motive : List Char → Prop}
    (last : ∀ piece, (∀ c ∈ piece, p c = false) → motive piece)
    (more : ∀ piece c rest, (∀ d ∈ piece, p d = false) → p c = true → motive rest →
      motive (piece ++ c :: rest)) (s : List Char) : motive s := by
  induction hlength : s.length using Nat.strong_induction_on generalizing s with
  | h n ih =>
    have hpiece : ∀ c ∈ s.takeWhile (!p ·), p c = false :=
      fun c hc => by simpa using List.mem_takeWhile_imp hc
    rw [← List.takeWhile_append_dropWhile (p := (!p ·)) (l := s)]
    cases hrest : s.dropWhile (!p ·) with
    | nil =>
      rw [List.append_nil]
      exact last _ hpiece
    | cons c rest =>
      have hc : p c = true := by
        have hhead := List.head?_dropWhile_not (!p ·) s
        rw [hrest] at hhead
        simpa using hhead
      have hshorter : (c :: rest).length ≤ s.length := hrest ▸ List.length_dropWhile_le _ s
      exact more _ c rest hpiece hc (ih rest.length (by simp at hshorter; omega) rest rfl)

end Pieces

section Segments

variable {row rest : List Char}

lemma segments_eq_singleton (h : '\n' ∉ row) : segments row = [row] :=
  splitAt_eq_singleton fun _ hc => beq_eq_false_iff_ne.mpr (ne_of_mem_of_not_mem hc h)

lemma segments_append_newline (s t : List Char) :
    segments (s ++ '\n' :: t) = segments s ++ segments t :=
  splitAt_append_cons rfl s t

lemma segments_row_append (h : '\n' ∉ row) (rest : List Char) :
    segments (row ++ '\n' :: rest) = row :: segments rest := by
  rw [segments_append_newline, segments_eq_singleton h, List.singleton_append]

/-- A text is one row, or a row with a newline and a shorter text behind it. -/
theorem rowInduction {motive : List Char → Prop} (last : ∀ row, '\n' ∉ row → motive row)
    (more : ∀ row rest, '\n' ∉ row → motive rest → motive (row ++ '\n' :: rest)) (s : List Char) :
    motive s := by
  have hrow {row : List Char} (h : ∀ c ∈ row, (c == '\n') = false) : '\n' ∉ row :=
    fun hmem => absurd (h '\n' hmem) (by decide)
  induction s using pieceInduction (· == '\n') with
  | last row h => exact last row (hrow h)
  | more row c rest h hc ih =>
    rw [beq_iff_eq.mp hc]
    exact more row rest (hrow h) ih

lemma newline_notMem_of_mem_segments {s : List Char} (h : row ∈ segments s) : '\n' ∉ row := by
  induction s using rowInduction with
  | last only honly =>
    rw [segments_eq_singleton honly, List.mem_singleton] at h
    exact h ▸ honly
  | more first rest hfirst ih =>
    rw [segments_row_append hfirst, List.mem_cons] at h
    rcases h with rfl | h
    · exact hfirst
    · exact ih h

/-- The text with the given rows. -/
def joinRows : List (List Char) → List Char
  | [] => []
  | [row] => row
  | row :: next :: others => row ++ '\n' :: joinRows (next :: others)

lemma segments_joinRows {rows : List (List Char)} (hne : rows ≠ [])
    (h : ∀ row ∈ rows, '\n' ∉ row) : segments (joinRows rows) = rows := by
  fun_induction joinRows rows with
  | case1 => exact absurd rfl hne
  | case2 row => exact segments_eq_singleton (h row List.mem_cons_self)
  | case3 row next others ih =>
    obtain ⟨hrow, hothers⟩ := List.forall_mem_cons.mp h
    rw [segments_row_append hrow, ih (List.cons_ne_nil _ _) hothers]

end Segments

/-- What stands behind the last newline of a text. -/
def lastRow (s : List Char) : List Char :=
  s.rtakeWhile (· != '\n')

section LastRow

variable {row tail : List Char}

lemma lastRow_row (h : '\n' ∉ row) : lastRow row = row := by
  refine List.rtakeWhile_eq_self_iff.mpr fun c hc => ?_
  simpa using ne_of_mem_of_not_mem hc h

lemma lastRow_append_newline (s t : List Char) : lastRow (s ++ '\n' :: t) = lastRow t := by
  rw [lastRow, List.rtakeWhile, List.reverse_append, List.reverse_cons, List.append_assoc,
    List.takeWhile_append]
  split_ifs with hall
  · rw [List.singleton_append, List.takeWhile_cons_of_neg (by simp), List.append_nil,
      List.reverse_reverse, lastRow, List.rtakeWhile,
      (List.takeWhile_prefix _).eq_of_length hall, List.reverse_reverse]
  · rfl

/-- What is put at the end of a row stays in that row and leaves the others alone. -/
theorem exists_rows_around (a : List Char) (htail : tail = [] ∨ ∃ below, tail = '\n' :: below) :
    ∃ above below, ∀ x, '\n' ∉ x →
      segments (a ++ (x ++ tail)) = above ++ (lastRow a ++ x) :: below := by
  induction a using rowInduction with
  | last row hrow =>
    have hnewline {x : List Char} (hx : '\n' ∉ x) : '\n' ∉ row ++ x := by
      simp [hrow, hx]
    rw [lastRow_row hrow]
    obtain rfl | ⟨below, rfl⟩ := htail
    · refine ⟨[], [], fun x hx => ?_⟩
      rw [List.append_nil, segments_eq_singleton (hnewline hx), List.nil_append]
    · refine ⟨[], segments below, fun x hx => ?_⟩
      rw [← List.append_assoc, segments_row_append (hnewline hx), List.nil_append]
  | more row rest hrow ih =>
    obtain ⟨above, below, hrows⟩ := ih
    refine ⟨row :: above, below, fun x hx => ?_⟩
    rw [List.append_assoc, List.cons_append, segments_row_append hrow, hrows x hx,
      lastRow_append_newline, List.cons_append]

end LastRow

section Words

variable {c : Char} {s t blanks : List Char}

lemma words_append_cons (hc : isWord c = false) (s t : List Char) :
    words (s ++ c :: t) = words s ++ words t := by
  rw [words, splitAt_append_cons (by simp [hc]), List.filter_append, words, words]

lemma words_of_blanks (h : ∀ c ∈ blanks, isBlank c = true) : words blanks = [] := by
  induction blanks with
  | nil => rfl
  | cons c rest ih =>
    obtain ⟨hc, hrest⟩ := List.forall_mem_cons.mp h
    have := words_append_cons (not_isWord_of_isBlank hc) [] rest
    rw [List.nil_append] at this
    rw [this, ih hrest]
    rfl

lemma words_blanks_append (h : ∀ c ∈ blanks, isBlank c = true) (s : List Char) :
    words (blanks ++ s) = words s := by
  induction blanks with
  | nil => rfl
  | cons c rest ih =>
    obtain ⟨hc, hrest⟩ := List.forall_mem_cons.mp h
    have := words_append_cons (not_isWord_of_isBlank hc) [] (rest ++ s)
    rw [List.nil_append] at this
    rw [List.cons_append, this, ih hrest]
    rfl

lemma words_append_blanks (h : ∀ c ∈ blanks, isBlank c = true) (s : List Char) :
    words (s ++ blanks) = words s := by
  cases blanks with
  | nil => rw [List.append_nil]
  | cons c rest =>
    obtain ⟨hc, hrest⟩ := List.forall_mem_cons.mp h
    rw [words_append_cons (not_isWord_of_isBlank hc), words_of_blanks hrest, List.append_nil]

lemma words_trim (s : List Char) : words (trim s) = words s := by
  obtain ⟨before, after, hsplit, hbefore, hafter⟩ := exists_blanks_trim s
  conv_rhs => rw [hsplit, words_blanks_append hbefore, words_append_blanks hafter]

end Words

/-- The rows that are not blank, trimmed and numbered from `first` on. -/
def numberedRows (first : Nat) (rows : List (List Char)) : List (List Char × Nat) :=
  (rows.zipIdx first).filterMap fun (row, n) =>
    if (trim row).isEmpty then none else some (trim row, n)

/-- The lines that show something, trimmed, with their numbers. -/
def visibleLines (s : List Char) : List (List Char × Nat) :=
  numberedRows 1 (lines s)

section Numbered

variable {first : Nat} {row : List Char} {rows others : List (List Char)}

lemma numberedRows_singleton (first : Nat) (row : List Char) :
    numberedRows first [row] = if (trim row).isEmpty then [] else [(trim row, first)] := by
  simp only [numberedRows, List.zipIdx_singleton, List.filterMap_cons, List.filterMap_nil]
  by_cases h : (trim row).isEmpty = true <;> simp only [h] <;> rfl

lemma numberedRows_cons (first : Nat) (row : List Char) (rows : List (List Char)) :
    numberedRows first (row :: rows) =
      numberedRows first [row] ++ numberedRows (first + 1) rows := by
  rw [numberedRows, List.zipIdx_cons, ← List.singleton_append, List.filterMap_append]
  rfl

lemma numberedRows_cons_congr {row' : List Char} (hrow : trim row = trim row')
    (hrows : numberedRows (first + 1) rows = numberedRows (first + 1) others) :
    numberedRows first (row :: rows) = numberedRows first (row' :: others) := by
  rw [numberedRows_cons, numberedRows_singleton, hrow, hrows, ← numberedRows_singleton,
    ← numberedRows_cons]

lemma numberedRows_congr (h : rows.map trim = others.map trim) :
    numberedRows first rows = numberedRows first others := by
  induction rows generalizing first others with
  | nil => rw [List.map_eq_nil_iff.mp h.symm]
  | cons row rest ih =>
    obtain ⟨row', rest', rfl, hrow, hrest⟩ := List.map_eq_cons_iff.mp h.symm
    exact numberedRows_cons_congr hrow.symm (ih hrest.symm)

lemma numberedRows_map_trimEnd (first : Nat) (rows : List (List Char)) :
    numberedRows first (rows.map trimEnd) = numberedRows first rows :=
  numberedRows_congr (by simp [trim_trimEnd])

lemma numberedRows_append_empty (first : Nat) (rows : List (List Char)) :
    numberedRows first (rows ++ [[]]) = numberedRows first rows := by
  induction rows generalizing first with
  | nil => rfl
  | cons row rest ih => exact numberedRows_cons_congr rfl (ih _)

/-- A pass over rows that looks at them trimmed and takes nothing from blank ones sees the visible
lines. -/
lemma filterMap_zipIdx_trim {β : Type} {f : List Char × Nat → Option β}
    (hblank : ∀ n, f ([], n) = none) (first : Nat) (rows : List (List Char)) :
    ((rows.zipIdx first).filterMap fun p => f (trim p.1, p.2)) =
      (numberedRows first rows).filterMap f := by
  rw [numberedRows, List.filterMap_filterMap]
  refine List.filterMap_congr fun p _ => ?_
  by_cases hempty : trim p.1 = []
  · simp [hempty, hblank]
  · simp [hempty]

lemma map_fst_numberedRows (first : Nat) (rows : List (List Char)) :
    (numberedRows first rows).map Prod.fst = (rows.map trim).filter fun line => !line.isEmpty := by
  induction rows generalizing first with
  | nil => rfl
  | cons row rest ih =>
    rw [numberedRows_cons, List.map_append, ih, numberedRows_singleton, List.map_cons,
      List.filter_cons]
    by_cases hempty : (trim row).isEmpty = true <;> simp [hempty]

lemma filterMap_trim {β : Type} {f : List Char → Option β} (hblank : f [] = none)
    (rows : List (List Char)) :
    (rows.filterMap fun row => f (trim row)) =
      ((rows.map trim).filter fun line => !line.isEmpty).filterMap f := by
  rw [List.filterMap_filter, List.filterMap_map]
  refine List.filterMap_congr fun row _ => ?_
  by_cases hempty : trim row = []
  · simp [hempty, hblank]
  · simp [hempty]

lemma flatMap_trim {β : Type} {f : List Char → List β} (hblank : f [] = [])
    (rows : List (List Char)) :
    (rows.flatMap fun row => f (trim row)) =
      ((rows.map trim).filter fun line => !line.isEmpty).flatMap f := by
  induction rows with
  | nil => rfl
  | cons row rest ih =>
    rw [List.flatMap_cons, List.map_cons, List.filter_cons, ih]
    by_cases hempty : trim row = []
    · simp [hempty, hblank]
    · simp [hempty]

/-- The lines are the rows, except for carriage returns at their ends and an empty last row. -/
lemma exists_map_trimEnd_segments (s : List Char) : ∃ last, (last = [] ∨ last = [[]]) ∧
    (segments s).map trimEnd = (lines s).map trimEnd ++ last := by
  fun_induction lines s with
  | case1 => exact ⟨[[]], .inr rfl, rfl⟩
  | case2 rest ih =>
    obtain ⟨last, hlast, heq⟩ := ih
    exact ⟨last, hlast, congrArg ([] :: ·) heq⟩
  | case3 rest ih =>
    obtain ⟨last, hlast, heq⟩ := ih
    exact ⟨last, hlast, congrArg ([] :: ·) heq⟩
  | case4 c rest hnewline hreturn ih =>
    obtain ⟨last, hlast, heq⟩ := ih
    have hsegments : segments (c :: rest) = consFirst c (segments rest) :=
      if_neg (by simpa using hnewline)
    obtain ⟨first, others, hfirst⟩ := List.exists_cons_of_ne_nil (splitAt_ne_nil (· == '\n') rest)
    have hfirst : segments rest = first :: others := hfirst
    rw [hsegments, hfirst]
    rw [hfirst] at heq
    cases hlines : lines rest with
    | nil =>
      rw [hlines] at heq
      obtain rfl | rfl := hlast
      · cases heq
      · obtain ⟨hfirst, hothers⟩ := List.cons.inj heq
        refine ⟨[], .inl rfl, ?_⟩
        simpa [consFirst, hothers] using trimEnd_append_congr (t := []) hfirst [c]
    | cons line more =>
      rw [hlines] at heq
      obtain ⟨hfirst, hothers⟩ := List.cons.inj heq
      refine ⟨last, hlast, ?_⟩
      simpa [consFirst, hothers] using trimEnd_append_congr hfirst [c]

lemma numberedRows_lines (first : Nat) (s : List Char) :
    numberedRows first (lines s) = numberedRows first (segments s) := by
  obtain ⟨last, hlast, heq⟩ := exists_map_trimEnd_segments s
  rw [← numberedRows_map_trimEnd, ← numberedRows_map_trimEnd _ (segments s), heq]
  obtain rfl | rfl := hlast
  · rw [List.append_nil]
  · rw [numberedRows_append_empty]

lemma visibleLines_eq_segments (s : List Char) : visibleLines s = numberedRows 1 (segments s) :=
  numberedRows_lines 1 s

lemma visibleLines_insert_blanks {x tail : List Char} (a : List Char) (hnewline : '\n' ∉ x)
    (hblank : ∀ c ∈ x, isBlank c = true) (htail : tail = [] ∨ ∃ below, tail = '\n' :: below) :
    visibleLines (a ++ (x ++ tail)) = visibleLines (a ++ tail) := by
  obtain ⟨above, below, hrows⟩ := exists_rows_around a htail
  have hwithout := hrows [] (by simp)
  rw [List.nil_append] at hwithout
  rw [visibleLines_eq_segments, visibleLines_eq_segments, hrows x hnewline, hwithout]
  refine numberedRows_congr ?_
  simp only [List.map_append, List.map_cons, trim_append_blanks hblank, List.append_nil]

end Numbered

end Autograder.Proofs
