import Autograder.Proofs.Check.Shapes
import Autograder.Proofs.Language.Layout
import Autograder.Proofs.Source.Comments
import Autograder.Proofs.Text.Places

/-!
# What tells the language of a text

Every signature looks for something that stands somewhere in the text: a complete word, characters
next to each other, a call or a statement. The language follows from what is there. The readers of
calls and statements take all blanks at once, which never costs a match, because neither a
parenthesis nor a semicolon is blank.
-/

namespace Autograder.Proofs

open Autograder.Text

/-- A part of the text has the shape. -/
def somewhere (shape : Shape) : Shape := fun s =>
  ∃ before part after, s = before ++ (part ++ after) ∧ shape part

/-- The word stands somewhere, and word characters continue it on neither side. -/
def hasWord (word : String) : Shape := fun s => ∃ place, StandsAt s word.toList place

def inOneRow : Shape := fun s => '\n' ∉ s

/-- A name, perhaps as the end of a longer one, and an opening parenthesis. -/
def callOf (name : String) : Shape :=
  inOrder [exactly name, blanks, exactly "("]

/-- A keyword, perhaps as the end of a longer word, and a semicolon behind it. Only the blanks right
after the keyword may hold newlines. -/
def statementFrom (keyword : String) : Shape :=
  inOrder [exactly keyword, gap, inOneRow, exactly ";"]

/-- What a signature looks for is there. -/
def shows : Autograder.Shape → Shape
  | .anyWord words => fun s => ∃ word ∈ words, hasWord word s
  | .word word => hasWord word
  | .literal text => somewhere (exactly text)
  | .call name => somewhere (callOf name)
  | .statement keyword => somewhere (statementFrom keyword)

section Words

variable {s : List Char} {word : String}

lemma hasWord_iff : hasWord word s ↔ word.toList ∈ words s := by
  obtain ⟨found, hfound, hlists⟩ := exists_lists_words s
  rw [← hfound, List.mem_map]
  constructor
  · rintro ⟨place, hplace⟩
    exact ⟨(word.toList, place), (hlists.complete _ _).mpr hplace, rfl⟩
  · rintro ⟨⟨other, place⟩, hmem, rfl⟩
    exact ⟨place, (hlists.complete _ _).mp hmem⟩

lemma occursAsWord_eq_true_iff : occursAsWord word.toList s = true ↔ hasWord word s := by
  rw [occursAsWord, List.contains_iff_mem, hasWord_iff]

end Words

section Readers

variable {s rest : List Char} {first : String}

lemma after?_eq_some_iff : Shape.after? first s = some rest ↔ s = first.toList ++ rest := by
  unfold Shape.after?
  constructor
  · intro h
    simp only [Option.ite_none_right_eq_some, Option.some.injEq] at h
    obtain ⟨hstarts, rfl⟩ := h
    obtain ⟨rest, rfl⟩ := List.isPrefixOf_iff_prefix.mp hstarts
    rw [List.drop_left]
  · rintro rfl
    rw [if_pos (List.isPrefixOf_iff_prefix.mpr (List.prefix_append _ _)), List.drop_left]

lemma head?_trimStart_eq_some_iff {c : Char} (hc : isBlank c = false) :
    (trimStart s).head? = some c ↔ ∃ between after, s = between ++ c :: after ∧ blanks between := by
  constructor
  · intro h
    obtain ⟨between, hsplit, hblank⟩ := exists_blanks_trimStart s
    obtain ⟨after, hafter⟩ := List.head?_eq_some_iff.mp h
    exact ⟨between, after, hafter ▸ hsplit, hblank⟩
  · rintro ⟨between, after, rfl, hblank⟩
    rw [trimStart_append hblank (startsOutside_cons.mpr hc), List.head?_cons]

lemma startsCall_eq_true_iff : Shape.startsCall first s = true ↔
    ∃ part after, s = part ++ after ∧ callOf first part := by
  have hcall : Shape.startsCall first s = true ↔
      ∃ rest ∈ Shape.after? first s, (trimStart rest).head? = some '(' := by
    unfold Shape.startsCall
    cases Shape.after? first s <;> simp
  rw [hcall]
  constructor
  · rintro ⟨rest, hrest, hhead⟩
    obtain ⟨between, after, rfl, hblank⟩ := (head?_trimStart_eq_some_iff (by decide)).mp hhead
    refine ⟨first.toList ++ (between ++ ['(']), after, ?_, first.toList, _, rfl, rfl, between, _,
      rfl, hblank, ['('], [], rfl, rfl, rfl⟩
    rw [after?_eq_some_iff.mp hrest]
    simp
  · rintro ⟨_, after, rfl, _, _, rfl, rfl, between, _, rfl, hblank, _, _, rfl, rfl, rfl⟩
    refine ⟨between ++ '(' :: after, after?_eq_some_iff.mpr (by simp), ?_⟩
    exact (head?_trimStart_eq_some_iff (by decide)).mpr ⟨between, after, rfl, hblank⟩

lemma trimStart_append_semicolon (text after : List Char) :
    trimStart (text ++ ';' :: after) = trimStart text ++ ';' :: after := by
  rw [trimStart, List.dropWhile_append]
  split_ifs with hempty
  · rw [trimStart, List.isEmpty_iff.mp hempty]
    exact trimStart_cons_of_not_isBlank (by decide)
  · rfl

lemma goesOn_iff : GoesOn s ↔
    ∃ between text after, s = between ++ (text ++ ';' :: after) ∧ gap between ∧ inOneRow text := by
  constructor
  · rintro ⟨⟨c, hhead, hc⟩, hsemicolon⟩
    obtain ⟨rest, rfl⟩ := List.head?_eq_some_iff.mp hhead
    obtain ⟨text, others, hsplit⟩ := List.append_of_mem hsemicolon
    refine ⟨c :: rest.takeWhile isBlank, text,
      others ++ (trimStart (c :: rest)).dropWhile (· != '\n'), ?_, ⟨List.cons_ne_nil _ _, ?_⟩, ?_⟩
    · have hrow : trimStart (c :: rest) =
          text ++ ';' :: (others ++ (trimStart (c :: rest)).dropWhile (· != '\n')) := by
        have hwhole := (List.takeWhile_append_dropWhile (l := trimStart (c :: rest))
          (p := (· != '\n'))).symm
        rwa [hsplit, List.append_assoc, List.cons_append] at hwhole
      rw [← hrow, trimStart_cons_of_isBlank hc, List.cons_append, trimStart,
        List.takeWhile_append_dropWhile]
    · exact List.forall_mem_cons.mpr ⟨hc, fun _ => List.mem_takeWhile_imp⟩
    · intro hnewline
      have hmem : '\n' ∈ (trimStart (c :: rest)).takeWhile (· != '\n') := by
        rw [hsplit]
        exact List.mem_append_left _ hnewline
      simpa using List.mem_takeWhile_imp hmem
  · rintro ⟨between, text, after, rfl, ⟨hne, hblank⟩, hrow⟩
    obtain ⟨c, others, rfl⟩ := List.exists_cons_of_ne_nil hne
    refine ⟨⟨c, rfl, hblank c List.mem_cons_self⟩, ?_⟩
    have hinside : ∀ d ∈ trimStart text, (d != '\n') = true := fun d hd =>
      bne_iff_ne.mpr (ne_of_mem_of_not_mem ((List.dropWhile_sublist _).subset hd) hrow)
    rw [trimStart_blanks_append hblank, trimStart_append_semicolon,
      List.takeWhile_append_of_pos hinside, List.takeWhile_cons_of_pos (by decide)]
    exact List.mem_append_right _ List.mem_cons_self

lemma startsStatement_iff : Shape.startsStatement first s = true ↔
    ∃ part after, s = part ++ after ∧ statementFrom first part := by
  rw [startsStatement_eq_true_iff]
  constructor
  · rintro ⟨rest, hrest, hgoes⟩
    obtain ⟨between, text, after, rfl, hgap, hrow⟩ := goesOn_iff.mp hgoes
    refine ⟨first.toList ++ (between ++ (text ++ [';'])), after, ?_, first.toList, _, rfl, rfl,
      between, _, rfl, hgap, text, _, rfl, hrow, [';'], [], rfl, rfl, rfl⟩
    rw [after?_eq_some_iff.mp hrest]
    simp
  · rintro ⟨_, after, rfl, _, _, rfl, rfl, between, _, rfl, hgap, text, _, rfl, hrow, _, _, rfl,
      rfl, rfl⟩
    refine ⟨between ++ (text ++ ';' :: after), after?_eq_some_iff.mpr (by simp), ?_⟩
    exact goesOn_iff.mpr ⟨between, text, after, rfl, hgap, hrow⟩

lemma anySuffix_iff_somewhere {p : List Char → Bool} {shape : Shape}
    (h : ∀ s, p s = true ↔ ∃ part after, s = part ++ after ∧ shape part) (s : List Char) :
    anySuffix p s = true ↔ somewhere shape s := by
  rw [anySuffix_eq_true_iff]
  constructor
  · rintro ⟨before, rest, rfl, hrest⟩
    obtain ⟨part, after, rfl, hpart⟩ := (h rest).mp hrest
    exact ⟨before, part, after, rfl, hpart⟩
  · rintro ⟨before, part, after, rfl, hpart⟩
    exact ⟨before, part ++ after, rfl, (h _).mpr ⟨part, after, rfl, hpart⟩⟩

lemma somewhere_exactly_iff {text : String} : somewhere (exactly text) s ↔ text.toList <:+: s := by
  constructor
  · rintro ⟨before, _, after, rfl, rfl⟩
    exact ⟨before, after, by simp⟩
  · rintro ⟨before, after, rfl⟩
    exact ⟨before, text.toList, after, by simp, rfl⟩

lemma occurs_iff_somewhere {text : String} :
    occurs text.toList s = true ↔ somewhere (exactly text) s := by
  rw [occurs_eq_true_iff, somewhere_exactly_iff]

theorem occursIn_eq_true_iff (shape : Autograder.Shape) (s : List Char) :
    shape.occursIn s = true ↔ shows shape s := by
  cases shape with
  | anyWord words => simp only [Shape.occursIn, List.any_eq_true, occursAsWord_eq_true_iff, shows]
  | word word => exact occursAsWord_eq_true_iff
  | literal text => exact occurs_iff_somewhere
  | call name => exact anySuffix_iff_somewhere (fun _ => startsCall_eq_true_iff) s
  | statement keyword => exact anySuffix_iff_somewhere (fun _ => startsStatement_iff) s

end Readers

/-- The text shows a signature of PSeInt. -/
def showsPseint : Shape := fun s =>
  somewhere (exactly "<-") s ∨
    ∃ word ∈ ["Definir", "Como", "Proceso", "FinProceso", "Escribir", "Leer"], hasWord word s

/-- The text shows a signature of C. -/
def showsC : Shape := fun s =>
  (∃ word ∈ ["int", "float", "char", "double"], hasWord word s) ∨
    somewhere (exactly "#include") s ∨
    (∃ name ∈ ["printf", "scanf", "main"], somewhere (callOf name) s) ∨
    somewhere (statementFrom "return") s

section Language

variable {s : List Char}

lemma isSome_firstSignature?_iff (language : Language) (s : List Char) :
    (language.firstSignature? s).isSome = true ↔
      ∃ signature ∈ language.signatures, shows signature.shape s := by
  simp only [Language.firstSignature?, List.find?_isSome, occursIn_eq_true_iff]

lemma isSome_firstSignature?_pseint :
    (Language.pseint.firstSignature? s).isSome = true ↔ showsPseint s := by
  rw [isSome_firstSignature?_iff]
  simp only [Language.signatures, List.mem_cons, List.not_mem_nil, or_false, exists_eq_or_imp,
    exists_eq_left, shows, showsPseint]
  rw [or_left_comm (a := hasWord "Como" s), or_left_comm (a := hasWord "Definir" s)]

lemma isSome_firstSignature?_c : (Language.c.firstSignature? s).isSome = true ↔ showsC s := by
  rw [isSome_firstSignature?_iff]
  simp only [Language.signatures, List.mem_cons, List.not_mem_nil, or_false, exists_eq_or_imp,
    exists_eq_left, shows, showsC, or_assoc]

lemma detect_eq (s : List Char) : Language.detect s =
    if (Language.pseint.firstSignature? s).isSome then .pseint
    else if (Language.c.firstSignature? s).isSome then .c
    else if occurs "Definir".toList s then .pseint
    else .c := by
  unfold Language.detect Language.recognize
  cases Language.pseint.firstSignature? s with
  | some signature => rfl
  | none =>
    cases Language.c.firstSignature? s with
    | some signature => rfl
    | none => rfl

lemma detect_eq_pseint_iff_shows : Language.detect s = .pseint ↔
    showsPseint s ∨ ¬ showsC s ∧ somewhere (exactly "Definir") s := by
  rw [detect_eq, ← isSome_firstSignature?_pseint, ← isSome_firstSignature?_c,
    ← occurs_iff_somewhere]
  split_ifs with hpseint hc hdefinir
  · exact iff_of_true rfl (.inl hpseint)
  · exact iff_of_false not_false (not_or.mpr ⟨hpseint, fun h => h.1 hc⟩)
  · exact iff_of_true rfl (.inr ⟨hc, hdefinir⟩)
  · exact iff_of_false not_false (not_or.mpr ⟨hpseint, fun h => hdefinir h.2⟩)

/-- A text is taken for PSeInt exactly if it shows one of the signatures of PSeInt, or none of C but
`Definir` somewhere, be it inside a word. -/
theorem detect_eq_pseint_iff (s : List Char) : Language.detect s = .pseint ↔
    (somewhere (exactly "<-") s ∨
      ∃ word ∈ ["Definir", "Como", "Proceso", "FinProceso", "Escribir", "Leer"], hasWord word s) ∨
    (¬ ((∃ word ∈ ["int", "float", "char", "double"], hasWord word s) ∨
        somewhere (exactly "#include") s ∨
        (∃ name ∈ ["printf", "scanf", "main"], somewhere (callOf name) s) ∨
        somewhere (statementFrom "return") s) ∧
      somewhere (exactly "Definir") s) :=
  detect_eq_pseint_iff_shows

end Language

end Autograder.Proofs
