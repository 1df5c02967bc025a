import Autograder.Grading.Outcome
import Autograder.Proofs.Language.Detection
import Autograder.Proofs.Source.LineComments

/-!
# Line comments tell the language too

Detection reads comments like any other text. The signatures of PSeInt hold neither slashes nor
newlines, so a line comment at the end of a row can neither break nor complete one: the text with
the comment shows those of the text and those of the comment. One word of pseudocode in the comment
of a C program is therefore enough to have the program checked as PSeInt.
-/

namespace Autograder.Proofs

open Autograder.Text Autograder.Source

/-- The character never stands inside the shape: whatever it separates has the shape on one side. -/
def IsSplitBy (c : Char) (shape : Shape) : Prop :=
  ∀ s t, shape (s ++ c :: t) ↔ shape s ∨ shape t

section Split

variable {c : Char} {s t : List Char} {shape : Shape}

lemma isSplitBy_hasWord (hc : isWord c = false) (word : String) : IsSplitBy c (hasWord word) := by
  intro s t
  rw [hasWord_iff, hasWord_iff, hasWord_iff, words_append_cons hc, List.mem_append]

lemma isSplitBy_somewhere_exactly {text : String} (hne : text.toList ≠ [])
    (hc : c ∉ text.toList) : IsSplitBy c (somewhere (exactly text)) := by
  intro s t
  constructor
  · rintro ⟨before, _, after, hsplit, rfl⟩
    rcases (append_cons_eq_iff hc hne).mp hsplit with ⟨rest, rfl, -⟩ | ⟨rest, -, rfl⟩
    · exact .inl ⟨before, _, rest, rfl, rfl⟩
    · exact .inr ⟨rest, _, after, rfl, rfl⟩
  · rintro (⟨before, _, after, rfl, rfl⟩ | ⟨before, _, after, rfl, rfl⟩)
    · exact ⟨before, _, after ++ c :: t, by simp, rfl⟩
    · exact ⟨s ++ c :: before, _, after, by simp, rfl⟩

lemma isSplitBy_showsPseint (hc : isWord c = false) (harrow : c ∉ "<-".toList) :
    IsSplitBy c showsPseint := by
  intro s t
  have hword (word : String) := isSplitBy_hasWord hc word s t
  simp only [showsPseint, isSplitBy_somewhere_exactly (by decide) harrow s t, hword,
    and_or_left, exists_or]
  exact or_or_or_comm

lemma shape_append_rowEnd (hnewline : IsSplitBy '\n' shape) (hnil : ¬ shape []) (htail : IsRowEnd t)
    (s : List Char) : shape (s ++ t) ↔ shape s ∨ shape t := by
  obtain rfl | ⟨below, rfl⟩ := htail
  · rw [List.append_nil, or_iff_left hnil]
  · have hbelow : shape ('\n' :: below) ↔ shape [] ∨ shape below := hnewline [] below
    rw [hnewline, hbelow, or_iff_right hnil]

/-- A line comment adds what it shows itself, and nothing else. -/
lemma shape_insert {a comment tail : List Char} (hslash : IsSplitBy '/' shape)
    (hnewline : IsSplitBy '\n' shape) (hnil : ¬ shape []) (htail : IsRowEnd tail) :
    shape (a ++ ('/' :: '/' :: comment ++ tail)) ↔ shape (a ++ tail) ∨ shape comment := by
  have hmarker : shape ('/' :: (comment ++ tail)) ↔ shape [] ∨ shape (comment ++ tail) :=
    hslash [] (comment ++ tail)
  rw [List.cons_append, List.cons_append, hslash, hmarker, or_iff_right hnil,
    shape_append_rowEnd hnewline hnil htail, shape_append_rowEnd hnewline hnil htail, or_right_comm,
    or_assoc]

end Split

section Kept

variable {s t : List Char}

lemma words_append (ht : StartsOutside isWord t) (s : List Char) :
    words (s ++ t) = words s ++ words t := by
  cases t with
  | nil => simp [words, Text.splitAt]
  | cons c rest =>
    have hc := startsOutside_cons.mp ht
    have hrest : words (c :: rest) = words rest := words_append_cons hc [] rest
    rw [words_append_cons hc, hrest]

lemma somewhere_append {shape : Shape} (h : somewhere shape s ∨ somewhere shape t) :
    somewhere shape (s ++ t) := by
  obtain ⟨before, part, after, rfl, hpart⟩ | ⟨before, part, after, rfl, hpart⟩ := h
  · exact ⟨before, part, after ++ t, by simp, hpart⟩
  · exact ⟨s ++ before, part, after, by simp, hpart⟩

lemma showsC_append (ht : StartsOutside isWord t) (h : showsC s ∨ showsC t) : showsC (s ++ t) := by
  have hword {word : String} (h : hasWord word s ∨ hasWord word t) : hasWord word (s ++ t) := by
    rwa [hasWord_iff, words_append ht, List.mem_append, ← hasWord_iff, ← hasWord_iff]
  obtain (⟨type, htype, h⟩ | h | ⟨name, hname, h⟩ | h) |
    (⟨type, htype, h⟩ | h | ⟨name, hname, h⟩ | h) := h
  · exact .inl ⟨type, htype, hword (.inl h)⟩
  · exact .inr (.inl (somewhere_append (.inl h)))
  · exact .inr (.inr (.inl ⟨name, hname, somewhere_append (.inl h)⟩))
  · exact .inr (.inr (.inr (somewhere_append (.inl h))))
  · exact .inl ⟨type, htype, hword (.inr h)⟩
  · exact .inr (.inl (somewhere_append (.inr h)))
  · exact .inr (.inr (.inl ⟨name, hname, somewhere_append (.inr h)⟩))
  · exact .inr (.inr (.inr (somewhere_append (.inr h))))

end Kept

section Insertion

variable {a comment tail : List Char}

lemma startsOutside_of_isRowEnd (htail : IsRowEnd tail) : StartsOutside isWord tail := by
  obtain rfl | ⟨below, rfl⟩ := htail
  · exact startsOutside_nil
  · exact startsOutside_cons.mpr (by decide)

lemma not_showsPseint_nil : ¬ showsPseint [] := by
  rw [← isSome_firstSignature?_pseint]
  decide

lemma not_somewhere_definir_nil : ¬ somewhere (exactly "Definir") [] := by
  rw [← occurs_iff_somewhere]
  decide

/-- A line comment at the end of a row turns the language to PSeInt exactly if it shows a signature
of PSeInt, and never turns it to C. `Definir` inside a longer word would count, comment or not, if
there were no signature at all; this is left out, as is a signature of C that goes over the end of
the row. -/
theorem detect_insert_lineComment_iff (htail : tail = [] ∨ ∃ below, tail = '\n' :: below)
    (hdefinir : somewhere (exactly "Definir") (a ++ tail) ∨ somewhere (exactly "Definir") comment →
      showsPseint (a ++ tail) ∨ showsPseint comment ∨ showsC a ∨ showsC tail) :
    Language.detect (a ++ ('/' :: '/' :: comment ++ tail)) = .pseint ↔
      Language.detect (a ++ tail) = .pseint ∨ showsPseint comment := by
  have houtside := startsOutside_of_isRowEnd htail
  have hkept (h : showsC a ∨ showsC tail) : showsC (a ++ ('/' :: '/' :: comment ++ tail)) :=
    showsC_append (startsOutside_cons.mpr (by decide))
      (h.imp_right fun h => showsC_append houtside (.inr h))
  have hpseint : showsPseint (a ++ ('/' :: '/' :: comment ++ tail)) ↔
      showsPseint (a ++ tail) ∨ showsPseint comment :=
    shape_insert (isSplitBy_showsPseint (by decide) (by decide))
      (isSplitBy_showsPseint (by decide) (by decide)) not_showsPseint_nil htail
  have hword : somewhere (exactly "Definir") (a ++ ('/' :: '/' :: comment ++ tail)) ↔
      somewhere (exactly "Definir") (a ++ tail) ∨ somewhere (exactly "Definir") comment :=
    shape_insert (isSplitBy_somewhere_exactly (by decide) (by decide))
      (isSplitBy_somewhere_exactly (by decide) (by decide)) not_somewhere_definir_nil htail
  rw [detect_eq_pseint_iff_shows, detect_eq_pseint_iff_shows, hpseint, hword]
  constructor
  · rintro ((h | h) | ⟨hnone, h⟩)
    · exact .inl (.inl h)
    · exact .inr h
    · rcases hdefinir h with h | h | h
      · exact .inl (.inl h)
      · exact .inr h
      · exact absurd (hkept h) hnone
  · rintro ((h | ⟨hnone, h⟩) | h)
    · exact .inl (.inl h)
    · rcases hdefinir (.inl h) with h | h | h
      · exact .inl (.inl h)
      · exact .inl (.inr h)
      · exact absurd (showsC_append houtside h) hnone
    · exact .inl (.inr h)

/-- A comment without a signature between two rows of C. -/
theorem detect_insert_lineComment_suma :
    showsC "int a = 1;".toList ∧
      (Language.detect ("int a = 1;".toList ++ ('/' :: '/' :: " suma".toList ++
          '\n' :: "return a;".toList)) = .pseint ↔
        Language.detect ("int a = 1;".toList ++ '\n' :: "return a;".toList) = .pseint ∨
          showsPseint " suma".toList) := by
  have hint : showsC "int a = 1;".toList :=
    .inl ⟨"int", by simp, occursAsWord_eq_true_iff.mp (by decide)⟩
  exact ⟨hint, detect_insert_lineComment_iff (.inr ⟨"return a;".toList, rfl⟩)
    fun _ => .inr (.inr (.inl hint))⟩

/-- One word of pseudocode in a comment at the end of a row of a program of C, outside comments and
literals: the program is still accepted as C, but it is taken for PSeInt and has faults. -/
theorem detect_ne_of_comment_leer :
    stateAfter .code "int a = 1; ".toList = .code ∧ '\n' ∉ " Leer a".toList ∧
      Language.detect "int a = 1; \nif (a)\n  a = 2;".toList = .c ∧
      Language.c.check "int a = 1; \nif (a)\n  a = 2;".toList = [] ∧
      Language.detect "int a = 1; // Leer a\nif (a)\n  a = 2;".toList = .pseint ∧
      Language.c.check "int a = 1; // Leer a\nif (a)\n  a = 2;".toList = [] ∧
      (grade "int a = 1; // Leer a\nif (a)\n  a = 2;".toList
        "int a = 1;\nif (a)\n  a = 2;".toList).stage = .faulty ∧
      (grade "int a = 1; // Leer a\nif (a)\n  a = 2;".toList
        "int a = 1;\nif (a)\n  a = 2;".toList).score = 0 := by
  decide +kernel

end Insertion

end Autograder.Proofs
