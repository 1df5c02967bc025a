import Autograder.Proofs.Source.Comments
import Autograder.Proofs.Source.MaskedLines

/-!
# Line comments at the end of a row

Three scans remove line comments: the pass that normalizes, masking, and the scan of a single line.
Each of them sees nothing of a comment that is put at the end of a row, if it does not see the
place as the inside of a comment or literal. The pass that normalizes does not care even then.
-/

namespace Autograder.Proofs

open Autograder.Text Autograder.Source

/-- The quote of the literal that a line ends in, if there is one; nothing at all if the line ends
in a comment. -/
def quoteAfter? : Option Char → List Char → Option (Option Char)
  | quote, [] => some quote
  | none, '/' :: '/' :: _ => none
  | none, c :: rest => quoteAfter? (if isQuote c then some c else none) rest
  | some quote, c :: rest => quoteAfter? (if c == quote then none else some quote) rest

/-- The rest of a text from the end of a row on. -/
def IsRowEnd (tail : List Char) : Prop :=
  tail = [] ∨ ∃ below, tail = '\n' :: below

section Normalize

variable {a comment tail : List Char}

lemma dropLineCommentsFrom_comment (hcomment : '\n' ∉ comment) (htail : IsRowEnd tail) :
    dropLineCommentsFrom true (comment ++ tail) = dropLineCommentsFrom false tail := by
  induction comment with
  | nil => obtain rfl | ⟨below, rfl⟩ := htail <;> rfl
  | cons c rest ih =>
    rw [List.mem_cons, not_or] at hcomment
    rw [List.cons_append, dropLineCommentsFrom, if_neg (by simpa using Ne.symm hcomment.1)]
    exact ih hcomment.2

lemma getLast?_ne_of_cons {c d : Char} {s : List Char} (h : (c :: s).getLast? ≠ some d) :
    s.getLast? ≠ some d := by
  cases s with
  | nil => simp
  | cons e rest => rwa [List.getLast?_cons_cons] at h

lemma not_slashes_of_append {c : Char} {s rest : List Char} (hslash : (c :: s).getLast? ≠ some '/')
    (hpair : ∀ others, c = '/' → s = '/' :: others → False) :
    ¬ (c = '/' ∧ (s ++ rest).head? = some '/') := by
  rintro ⟨rfl, hhead⟩
  cases s with
  | nil => simp at hslash
  | cons d others =>
    rw [List.cons_append, List.head?_cons, Option.some.injEq] at hhead
    exact hpair others rfl (hhead ▸ rfl)

/-- Wherever a line comment is put at the end of a row, normalizing drops it; if the row already
ends in one, the two become one. -/
theorem dropLineCommentsFrom_insert {inside : Bool} (hcomment : '\n' ∉ comment)
    (htail : IsRowEnd tail) (hslash : a.getLast? ≠ some '/') :
    dropLineCommentsFrom inside (a ++ ('/' :: '/' :: comment ++ tail)) =
      dropLineCommentsFrom inside (a ++ tail) := by
  have hmarker : '\n' ∉ '/' :: '/' :: comment := by simp [hcomment]
  fun_induction dropLineCommentsFrom inside a with
  | case1 inside =>
    -- inside a comment even the marker is dropped, and the rest is dropped up to the row's end
    cases inside with
    | true =>
      exact (dropLineCommentsFrom_comment hmarker htail).trans
        (dropLineCommentsFrom_comment List.not_mem_nil htail).symm
    | false => exact dropLineCommentsFrom_comment hcomment htail
  | case2 c rest hc ih | case3 c rest hc ih =>
    simp only [List.cons_append, dropLineCommentsFrom, hc, if_true, Bool.false_eq_true, if_false]
    rw [← List.cons_append, ← List.cons_append, ih (getLast?_ne_of_cons hslash)]
  | case4 rest ih => exact ih (getLast?_ne_of_cons (getLast?_ne_of_cons hslash))
  | case5 c rest hpair ih =>
    have hcons (others : List Char) : dropLineCommentsFrom false (c :: rest ++ others) =
        c :: dropLineCommentsFrom false (rest ++ others) :=
      dropLineCommentsFrom_cons (not_slashes_of_append hslash hpair)
    rw [hcons, hcons, ih (getLast?_ne_of_cons hslash)]

theorem normalize_insert (hcomment : '\n' ∉ comment) (htail : IsRowEnd tail)
    (hslash : a.getLast? ≠ some '/') :
    Source.normalize (a ++ ('/' :: '/' :: comment ++ tail)) = Source.normalize (a ++ tail) := by
  rw [Source.normalize, Source.normalize, dropLineComments, dropLineComments,
    dropLineCommentsFrom_insert hcomment htail hslash]

end Normalize

section Mask

variable {a comment tail : List Char}

lemma maskFrom_lineComment (hcomment : '\n' ∉ comment) (htail : IsRowEnd tail) :
    maskFrom .lineComment (comment ++ tail) =
      List.replicate comment.length ' ' ++ mask tail := by
  induction comment with
  | nil => obtain rfl | ⟨below, rfl⟩ := htail <;> rfl
  | cons c rest ih =>
    rw [List.mem_cons, not_or] at hcomment
    have hc : (c == '\n') = false := beq_eq_false_iff_ne.mpr (Ne.symm hcomment.1)
    simp only [List.cons_append, maskFrom, blankOut, hc, Bool.false_eq_true, if_false,
      List.length_cons, List.replicate_succ, ih hcomment.2]

/-- Outside comments and literals only a slash can be the first half of a pair. -/
lemma isCut_of_outside {state : MaskState} {s t : List Char} (houtside : stateAfter state s = .code)
    (hslash : s.getLast? ≠ some '/') : IsCut state s t := by
  intro c hc d _
  have hne : c ≠ '/' := by
    rintro rfl
    exact hslash hc
  simp [houtside, isPair, hne]

/-- Masked, a line comment at the end of a row is blanks at the end of that row. -/
theorem mask_insert (hcomment : '\n' ∉ comment) (htail : IsRowEnd tail)
    (hslash : a.getLast? ≠ some '/') (houtside : stateAfter .code a = .code) :
    mask (a ++ ('/' :: '/' :: comment ++ tail)) =
      mask a ++ (List.replicate (comment.length + 2) ' ' ++ mask tail) := by
  rw [mask, maskFrom_append (isCut_of_outside houtside hslash), houtside]
  refine congrArg (mask a ++ ·) ?_
  exact congrArg (' ' :: ' ' :: ·) (maskFrom_lineComment hcomment htail)

lemma mask_append_tail (htail : IsRowEnd tail) (houtside : stateAfter .code a = .code) :
    mask (a ++ tail) = mask a ++ mask tail := by
  have hcut : IsCut .code a tail := by
    intro c _ d hd
    rw [houtside]
    obtain rfl | ⟨below, rfl⟩ := htail
    · cases hd
    · obtain rfl := Option.some.inj hd
      simp [isPair]
  rw [mask, maskFrom_append hcut, houtside]
  rfl

lemma isRowEnd_mask (htail : IsRowEnd tail) : IsRowEnd (mask tail) := by
  obtain rfl | ⟨below, rfl⟩ := htail
  · exact .inl rfl
  · exact .inr ⟨mask below, rfl⟩

lemma visibleLines_mask_insert (hcomment : '\n' ∉ comment) (htail : IsRowEnd tail)
    (hslash : a.getLast? ≠ some '/') (houtside : stateAfter .code a = .code) :
    visibleLines (mask (a ++ ('/' :: '/' :: comment ++ tail))) =
      visibleLines (mask (a ++ tail)) := by
  rw [mask_insert hcomment htail hslash houtside, mask_append_tail htail houtside]
  refine visibleLines_insert_blanks (mask a) ?_ ?_ (isRowEnd_mask htail)
  · exact fun h => absurd (List.eq_of_mem_replicate h) (by decide)
  · intro c hc
    rw [List.eq_of_mem_replicate hc]
    decide

end Mask

section Line

variable {quote : Option Char} {line blanks : List Char}

lemma stripCommentFrom_cons {c : Char} {s : List Char} (h : ¬ (c = '/' ∧ s.head? = some '/')) :
    stripCommentFrom none (c :: s) =
      c :: stripCommentFrom (if isQuote c then some c else none) s := by
  rw [stripCommentFrom]
  rintro rest rfl rfl
  exact h ⟨rfl, rfl⟩

/-- Of a line that ends outside comments and literals a comment behind it is cut off, and nothing
else. -/
lemma stripCommentFrom_append_comment (h : quoteAfter? quote line = some none)
    (hslash : line.getLast? ≠ some '/') (comment : List Char) :
    stripCommentFrom quote (line ++ '/' :: '/' :: comment) = line := by
  fun_induction quoteAfter? quote line with
  | case1 =>
    obtain rfl := Option.some.inj h
    rfl
  | case2 => cases h
  | case3 c rest hpair ih =>
    rw [List.cons_append, stripCommentFrom_cons (not_slashes_of_append hslash hpair),
      ih h (getLast?_ne_of_cons hslash)]
  | case4 quote c rest ih =>
    rw [List.cons_append, stripCommentFrom, ih h (getLast?_ne_of_cons hslash)]

lemma stripCommentFrom_eq_self {q : Option Char} (h : quoteAfter? quote line = some q) :
    stripCommentFrom quote line = line := by
  fun_induction quoteAfter? quote line with
  | case1 => rfl
  | case2 => cases h
  | case3 c rest hpair ih =>
    rw [stripCommentFrom, ih h]
    exact hpair
  | case4 quote c rest ih => rw [stripCommentFrom, ih h]

lemma stripCommentFrom_of_blanks (h : ∀ c ∈ blanks, isBlank c = true) :
    stripCommentFrom quote blanks = blanks := by
  induction blanks generalizing quote with
  | nil => rfl
  | cons c rest ih =>
    obtain ⟨hc, hrest⟩ := List.forall_mem_cons.mp h
    have hslash : c ≠ '/' := ne_of_isBlank hc (by decide)
    cases quote with
    | none => rw [stripCommentFrom_cons fun h => hslash h.1, ih hrest]
    | some quote => rw [stripCommentFrom, ih hrest]

lemma exists_blanks_stripCommentFrom (hblanks : ∀ c ∈ blanks, isBlank c = true) :
    ∃ blanks', (∀ c ∈ blanks', isBlank c = true) ∧
      stripCommentFrom quote (line ++ blanks) = stripCommentFrom quote line ++ blanks' := by
  fun_induction stripCommentFrom quote line with
  | case1 quote => exact ⟨blanks, hblanks, stripCommentFrom_of_blanks hblanks⟩
  | case2 rest => exact ⟨[], by simp, rfl⟩
  | case3 c rest hpair ih =>
    obtain ⟨blanks', hblanks', heq⟩ := ih
    refine ⟨blanks', hblanks', ?_⟩
    have hpair' : ¬ (c = '/' ∧ (rest ++ blanks).head? = some '/') := by
      rintro ⟨rfl, hhead⟩
      cases rest with
      | nil => exact absurd (hblanks '/' (List.mem_of_mem_head? hhead)) (by decide)
      | cons d others =>
        rw [List.cons_append, List.head?_cons, Option.some.injEq] at hhead
        exact hpair others rfl (hhead ▸ rfl)
    rw [List.cons_append, stripCommentFrom_cons hpair', heq]
    rfl
  | case4 quote c rest ih =>
    obtain ⟨blanks', hblanks', heq⟩ := ih
    refine ⟨blanks', hblanks', ?_⟩
    rw [List.cons_append, stripCommentFrom, heq]
    rfl

lemma stripLineComment_blanks_append (hblanks : ∀ c ∈ blanks, isBlank c = true)
    (line : List Char) : stripLineComment (blanks ++ line) = blanks ++ stripLineComment line := by
  induction blanks with
  | nil => rfl
  | cons c rest ih =>
    obtain ⟨hc, hrest⟩ := List.forall_mem_cons.mp hblanks
    have hslash : c ≠ '/' := ne_of_isBlank hc (by decide)
    rw [List.cons_append, stripLineComment, stripCommentFrom_cons fun h => hslash h.1,
      not_isQuote_of_isBlank hc]
    exact congrArg (c :: ·) (ih hrest)

lemma trim_stripLineComment_trim (line : List Char) :
    trim (stripLineComment (trim line)) = trim (stripLineComment line) := by
  obtain ⟨before, after, hsplit, hbefore, hafter⟩ := exists_blanks_trim line
  obtain ⟨blanks, hblanks, hstrip⟩ :=
    exists_blanks_stripCommentFrom hafter
  conv_rhs => rw [hsplit, stripLineComment_blanks_append hbefore, trim_blanks_append hbefore,
    stripLineComment, hstrip, trim_append_blanks hblanks]
  rfl

end Line

end Autograder.Proofs
