import Autograder.Proofs.Source.LineComments

/-!
# Masking texts by their lexemes

A text written lexeme by lexeme is masked lexeme by lexeme: code stays, comments turn into blanks,
and of literals the quotes stay. What stands inside a comment or a literal has no effect on what
comes after it. All lemmas are about a lexeme with any text behind it, so that no marker can be
misread where two lexemes meet.
-/

namespace Autograder.Proofs

open Autograder.Text Autograder.Source

/-- Code without quotes and markers of comments, that does not end in the first half of one. -/
structure IsCodeChunk (chunk : List Char) : Prop where
  noQuote : ∀ c ∈ chunk, isQuote c = false
  noLineComment : ¬ ['/', '/'] <:+: chunk
  noBlockComment : ¬ ['/', '*'] <:+: chunk
  noSlashAtEnd : chunk.getLast? ≠ some '/'

/-- A part of the contents of a literal: a character that means itself, or an escape. -/
inductive LiteralPart (quote : Char) where
  | plain (c : Char) (notQuote : c ≠ quote) (notEscape : c ≠ '\\') (notNewline : c ≠ '\n')
  | escape (c : Char)

def LiteralPart.text {quote : Char} : LiteralPart quote → List Char
  | plain c .. => [c]
  | escape c => ['\\', c]

/-- What a text is written of: code, comments that are closed, and literals that are closed. -/
inductive Lexeme where
  | code (chunk : List Char) (isCode : IsCodeChunk chunk)
  | lineComment (body : List Char) (inLine : '\n' ∉ body)
  | blockComment (body : List Char) (notClosed : ¬ ['*', '/'] <:+: body)
  | literal (quote : Char) (isQuote : isQuote quote = true) (parts : List (LiteralPart quote))

namespace Lexeme

def text : Lexeme → List Char
  | code chunk _ => chunk
  | lineComment body _ => '/' :: '/' :: body ++ ['\n']
  | blockComment body _ => '/' :: '*' :: body ++ ['*', '/']
  | literal quote _ parts => quote :: parts.flatMap LiteralPart.text ++ [quote]

/-- What is left to see of a lexeme. -/
def masked : Lexeme → List Char
  | code chunk _ => chunk
  | lineComment body h => (lineComment body h).text.map blankOut
  | blockComment body h => (blockComment body h).text.map blankOut
  | literal quote _ parts => quote :: (parts.flatMap LiteralPart.text).map blankOut ++ [quote]

end Lexeme

section Code

variable {c : Char} {chunk : List Char}

lemma isCodeChunk_of_cons (h : IsCodeChunk (c :: chunk)) : IsCodeChunk chunk where
  noQuote d hd := h.noQuote d (List.mem_cons_of_mem c hd)
  noLineComment hmarker := h.noLineComment (hmarker.trans (List.suffix_cons c chunk).isInfix)
  noBlockComment hmarker := h.noBlockComment (hmarker.trans (List.suffix_cons c chunk).isInfix)
  noSlashAtEnd := getLast?_ne_of_cons h.noSlashAtEnd

lemma not_isPair_of_isCodeChunk (h : IsCodeChunk (c :: chunk)) (rest : List Char) :
    ∀ d ∈ (chunk ++ rest).head?, isPair .code c d = false := by
  intro d hd
  by_contra hpair
  simp only [isPair, Bool.not_eq_false, Bool.and_eq_true, Bool.or_eq_true, beq_iff_eq] at hpair
  obtain ⟨rfl, hsecond⟩ := hpair
  cases chunk with
  | nil => exact h.noSlashAtEnd rfl
  | cons e others =>
    obtain rfl : e = d := by simpa using hd
    rcases hsecond with rfl | rfl
    · exact h.noLineComment ⟨[], others, rfl⟩
    · exact h.noBlockComment ⟨[], others, rfl⟩

lemma mask_code_append (h : IsCodeChunk chunk) (rest : List Char) :
    mask (chunk ++ rest) = chunk ++ mask rest := by
  unfold mask
  induction chunk with
  | nil => rfl
  | cons c others ih =>
    have hcode : readOne .code c = (.code, .code) := by
      simp [readOne, h.noQuote c List.mem_cons_self]
    rw [List.cons_append, maskFrom_one (not_isPair_of_isCodeChunk h rest), hcode,
      ih (isCodeChunk_of_cons h)]
    rfl

end Code

section Comment

variable {body : List Char}

lemma mask_lineComment_append (h : '\n' ∉ body) (rest : List Char) :
    mask ('/' :: '/' :: body ++ '\n' :: rest) =
      ('/' :: '/' :: body ++ ['\n']).map blankOut ++ mask rest := by
  have hblank : body.map blankOut = List.replicate body.length ' ' := by
    rw [List.map_eq_replicate_iff]
    rintro c hc
    have hne : c ≠ '\n' := fun heq => h (heq ▸ hc)
    simp [blankOut, hne]
  have hbody := maskFrom_lineComment h (.inr ⟨rest, rfl⟩)
  have hnewline : mask ('\n' :: rest) = '\n' :: mask rest := rfl
  rw [hnewline] at hbody
  change ' ' :: ' ' :: maskFrom .lineComment (body ++ '\n' :: rest) = _
  rw [hbody, ← hblank]
  simp [blankOut]

/-- The first `*/` closes the comment, also behind a star. -/
lemma maskFrom_blockComment_append (h : ¬ ['*', '/'] <:+: body) (rest : List Char) :
    maskFrom .blockComment (body ++ '*' :: '/' :: rest) =
      (body ++ ['*', '/']).map blankOut ++ mask rest := by
  induction body with
  | nil => rfl
  | cons c others ih =>
    have hone : ∀ d ∈ (others ++ '*' :: '/' :: rest).head?, isPair .blockComment c d = false := by
      intro d hd
      by_contra hpair
      simp only [isPair, Bool.not_eq_false, Bool.and_eq_true, beq_iff_eq] at hpair
      obtain ⟨rfl, rfl⟩ := hpair
      cases others with
      | nil => simp at hd
      | cons e others =>
        obtain rfl : e = '/' := by simpa using hd
        exact h ⟨[], others, rfl⟩
    rw [List.cons_append, maskFrom_one hone]
    change blankOut c :: maskFrom .blockComment (others ++ '*' :: '/' :: rest) = _
    rw [ih fun hclose => h (hclose.trans (List.suffix_cons c others).isInfix)]
    rfl

end Comment

section Literal

variable {quote : Char}

lemma maskFrom_part_append (part : LiteralPart quote) (rest : List Char) :
    maskFrom (.literal quote) (part.text ++ rest) =
      part.text.map blankOut ++ maskFrom (.literal quote) rest := by
  cases part with
  | plain c hquote hescape hnewline =>
    have hone : ∀ d ∈ rest.head?, isPair (.literal quote) c d = false := by
      intro d _
      simp [isPair, hescape]
    change maskFrom (.literal quote) (c :: rest) = _
    rw [maskFrom_one hone]
    simp [readOne, LiteralPart.text, shown, hquote, hescape, hnewline]
  | escape c => rfl

lemma maskFrom_literal_append (hquote : isQuote quote = true) (parts : List (LiteralPart quote))
    (rest : List Char) :
    maskFrom (.literal quote) (parts.flatMap LiteralPart.text ++ quote :: rest) =
      (parts.flatMap LiteralPart.text).map blankOut ++ quote :: mask rest := by
  induction parts with
  | nil =>
    simp only [isQuote, Bool.or_eq_true, beq_iff_eq] at hquote
    rcases hquote with rfl | rfl <;> rfl
  | cons part others ih =>
    rw [List.flatMap_cons, List.append_assoc, maskFrom_part_append, ih, List.map_append,
      List.append_assoc]

end Literal

/-- A lexeme is masked by itself, and what stands behind it as if it stood alone. -/
lemma mask_text_append (lexeme : Lexeme) (rest : List Char) :
    mask (lexeme.text ++ rest) = lexeme.masked ++ mask rest := by
  cases lexeme with
  | code chunk hcode => exact mask_code_append hcode rest
  | lineComment body hline =>
    simpa [Lexeme.text, Lexeme.masked] using mask_lineComment_append hline rest
  | blockComment body hclosed =>
    have hbody := maskFrom_blockComment_append hclosed rest
    simp only [Lexeme.text, Lexeme.masked, List.cons_append, List.append_assoc, List.nil_append]
    change ' ' :: ' ' :: maskFrom .blockComment (body ++ '*' :: '/' :: rest) = _
    rw [hbody]
    rfl
  | literal quote hquote parts =>
    have hopen : mask (quote :: (parts.flatMap LiteralPart.text ++ quote :: rest)) =
        quote :: maskFrom (.literal quote) (parts.flatMap LiteralPart.text ++ quote :: rest) := by
      have hquotes := hquote
      simp only [isQuote, Bool.or_eq_true, beq_iff_eq] at hquotes
      rcases hquotes with rfl | rfl <;> rfl
    simp only [Lexeme.text, Lexeme.masked, List.cons_append, List.append_assoc, List.nil_append]
    rw [hopen, maskFrom_literal_append hquote]

lemma mask_flatMap_append (lexemes : List Lexeme) (rest : List Char) :
    mask (lexemes.flatMap Lexeme.text ++ rest) = lexemes.flatMap Lexeme.masked ++ mask rest := by
  induction lexemes with
  | nil => rfl
  | cons lexeme others ih =>
    rw [List.flatMap_cons, List.append_assoc, mask_text_append, ih, List.flatMap_cons,
      List.append_assoc]

/-- A text is masked lexeme by lexeme, and what stands behind the lexemes is masked as if it stood
alone. -/
theorem mask_lexemes (lexemes : List Lexeme) :
    mask (lexemes.flatMap Lexeme.text) = lexemes.flatMap Lexeme.masked ∧
      ∀ rest, mask (lexemes.flatMap Lexeme.text ++ rest) =
        lexemes.flatMap Lexeme.masked ++ mask rest := by
  refine ⟨?_, mask_flatMap_append lexemes⟩
  have hall := mask_flatMap_append lexemes []
  rwa [List.append_nil, mask, mask, maskFrom, List.append_nil] at hall

/-- The escaped quote does not close the literal, and the one in the comment opens none. -/
example : mask "s = \"\\\"//\"; /* \" **/ t".toList = "s = \"    \";          t".toList := by
  decide

end Autograder.Proofs
