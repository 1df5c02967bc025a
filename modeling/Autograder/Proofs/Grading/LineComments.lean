import Autograder.Proofs.Check.VisibleLines
import Autograder.Proofs.Grading.Outcomes
import Autograder.Proofs.Source.LineComments

/-!
# Grading does not depend on line comments

In a submission of a known language a line comment can be put at the end of any row that does not
end inside a comment or literal, with anything in it. The check, the comparison and the score stay
the same. The row must not end in a slash, which would be the first one of the comment.
-/

namespace Autograder.Proofs

open Autograder.Check Autograder.Text Autograder.Source

/-- The end of the text is outside comments and literals, as the check of the language sees it: in
C for the scan of the whole text, in pseudocode for the scan of the last row. -/
def EndsOutside : Language → List Char → Prop
  | .c, a => stateAfter .code a = .code
  | .pseint, a => quoteAfter? none (lastRow a) = some none

section LineComments

variable {language : Language} {a comment tail : List Char}

lemma statementOf_append_comment (h : quoteAfter? none a = some none)
    (hslash : a.getLast? ≠ some '/') (comment : List Char) :
    Check.Pseint.statementOf (a ++ '/' :: '/' :: comment) = Check.Pseint.statementOf a := by
  rw [Check.Pseint.statementOf, Check.Pseint.statementOf, trim_stripLineComment_trim,
    trim_stripLineComment_trim, stripLineComment, stripLineComment,
    stripCommentFrom_append_comment h hslash, stripCommentFrom_eq_self h]

lemma getLast?_lastRow {c : Char} (h : a.getLast? ≠ some c) : (lastRow a).getLast? ≠ some c := by
  obtain ⟨above, hsplit⟩ := List.rtakeWhile_suffix (· != '\n') a
  intro hlast
  refine h ?_
  rw [← hsplit, List.getLast?_append, ← lastRow, hlast, Option.some_or]

lemma check_insert (hcomment : '\n' ∉ comment) (htail : IsRowEnd tail)
    (hslash : a.getLast? ≠ some '/') (houtside : EndsOutside language a) :
    language.check (a ++ ('/' :: '/' :: comment ++ tail)) = language.check (a ++ tail) := by
  cases language with
  | c =>
    exact check_c_of_visibleLines (visibleLines_mask_insert hcomment htail hslash houtside)
  | pseint =>
    refine check_pseint_of_statements ?_
    obtain ⟨above, below, hrows⟩ := exists_rows_around a htail
    have hwith := hrows ('/' :: '/' :: comment) (by simp [hcomment])
    have hwithout := hrows [] List.not_mem_nil
    rw [List.nil_append, List.append_nil] at hwithout
    rw [hwith, hwithout]
    simp only [List.map_append, List.map_cons,
      statementOf_append_comment houtside (getLast?_lastRow hslash)]

/-- A line comment put at the end of a row of a submission changes neither its normal form nor
anything in the outcome of grading. -/
theorem grade_insert_lineComment (solution : List Char) (strategy : GradingStrategy)
    (hcomment : '\n' ∉ comment) (htail : tail = [] ∨ ∃ below, tail = '\n' :: below)
    (hslash : a.getLast? ≠ some '/') (houtside : EndsOutside language a) :
    Source.normalize (a ++ ('/' :: '/' :: comment ++ tail)) = Source.normalize (a ++ tail) ∧
      grade (a ++ ('/' :: '/' :: comment ++ tail)) solution (some language) strategy =
        grade (a ++ tail) solution (some language) strategy := by
  have hnormal := normalize_insert hcomment htail hslash
  refine ⟨hnormal, ?_⟩
  simp only [grade, Option.getD_some, check_insert hcomment htail hslash houtside, hnormal]

/-- Quotes, an opening of a block comment and a closer of pseudocode, all in a comment. -/
theorem grade_insert_lineComment_quotes :
    '\n' ∉ " \"' /* FinSi #".toList ∧ "int a = 1;".toList.getLast? ≠ some '/' ∧
      EndsOutside .c "int a = 1;".toList ∧
      grade "int a = 1;// \"' /* FinSi #\nint b".toList "int a = 1;".toList (some .c) {} =
        grade "int a = 1;\nint b".toList "int a = 1;".toList (some .c) {} := by
  have hcomment : '\n' ∉ " \"' /* FinSi #".toList := by decide
  have hslash : "int a = 1;".toList.getLast? ≠ some '/' := by decide
  have houtside : EndsOutside .c "int a = 1;".toList := by
    unfold EndsOutside
    decide
  exact ⟨hcomment, hslash, houtside,
    (grade_insert_lineComment "int a = 1;".toList {} hcomment (.inr ⟨"int b".toList, rfl⟩) hslash
      houtside).2⟩

end LineComments

end Autograder.Proofs
