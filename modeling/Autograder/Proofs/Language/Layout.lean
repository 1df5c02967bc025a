import Autograder.Language.Detection
import Autograder.Proofs.Text.Relaid

/-!
# Detection does not depend on layout

A signature looks for words, for characters that stand next to each other, or for a name or keyword
with blanks and newlines behind it. Each of them is there in all layouts of a text or in none.
-/

namespace Autograder.Proofs

open Autograder.Text

section Words

lemma words_eq_flatMap_lineTexts (s : List Char) : words s = (lineTexts s).flatMap words := by
  induction s using rowInduction with
  | last row hrow =>
    rw [lineTexts_row hrow, ← words_trim]
    split_ifs with hempty
    · rw [hempty]
      rfl
    · exact (List.flatMap_singleton words (trim row)).symm
  | more row rest hrow ih =>
    rw [words_append_cons (by decide), lineTexts_append_newline, List.flatMap_append, ← ih,
      lineTexts_row hrow, ← words_trim]
    split_ifs with hempty
    · rw [hempty]
      rfl
    · simp

lemma occursAsWord_of_sameLines {s t : List Char} (h : SameLines s t) (word : List Char) :
    occursAsWord word s = occursAsWord word t := by
  unfold SameLines at h
  rw [occursAsWord, occursAsWord, words_eq_flatMap_lineTexts s, h, ← words_eq_flatMap_lineTexts]

end Words

section Shapes

variable {s t : List Char} {first : String}

/-- The text is not empty and shows all of its characters. -/
def IsVisible (text : String) : Prop :=
  text.toList ≠ [] ∧ text.toList.all (!isBlank ·) = true

lemma not_isBlank_of_isVisible (h : IsVisible first) : ∀ c ∈ first.toList, isBlank c = false := by
  simpa using h.2

lemma after?_cons_of_isBlank (hfirst : IsVisible first) {c : Char} (hc : isBlank c = true)
    (rest : List Char) : Shape.after? first (c :: rest) = none := by
  rw [Shape.after?, isPrefixOf_cons_of_isBlank hfirst.1 (not_isBlank_of_isVisible hfirst) hc]
  rfl

lemma rel_after? (hfirst : IsVisible first) (h : Relaid s t) :
    Option.Rel Relaid (Shape.after? first s) (Shape.after? first t) := by
  have hblank := not_isBlank_of_isVisible hfirst
  unfold Shape.after?
  rw [isPrefixOf_of_relaid hblank h]
  split_ifs with hprefix
  · obtain ⟨rest', rfl⟩ := List.isPrefixOf_iff_prefix.mp hprefix
    obtain ⟨rest, rfl, hrest⟩ := exists_of_relaid_append hblank (relaid_symm h)
    rw [List.drop_left, List.drop_left]
    exact .some (relaid_symm hrest)
  · exact .none

lemma startsCall_of_relaid (hname : IsVisible first) (h : Relaid s t) :
    Shape.startsCall first s = Shape.startsCall first t := by
  have hafter := rel_after? hname h
  unfold Shape.startsCall
  generalize Shape.after? first s = after at hafter
  generalize Shape.after? first t = after' at hafter
  cases hafter with
  | none => rfl
  | some hrest =>
    have hhead := head?_eq_of_relaid (c := '(') (by decide) (relaid_trimStart hrest)
    rw [Bool.eq_iff_iff, beq_iff_eq, beq_iff_eq]
    exact hhead

/-- A line break does not show what stands behind it on the same line. -/
lemma isBlank_of_mem_takeWhile_lineBreak {u : List Char} (hu : IsLineBreak u) {c : Char}
    (hc : c ∈ (u ++ s).takeWhile (· != '\n')) : isBlank c = true := by
  obtain ⟨hblank, hnewline⟩ := hu
  induction u with
  | nil => cases hnewline
  | cons d rest ih =>
    obtain ⟨hd, hrest⟩ := List.forall_mem_cons.mp hblank
    by_cases hend : d = '\n'
    · simp [hend] at hc
    · rw [List.cons_append, List.takeWhile_cons_of_pos (by simpa using hend)] at hc
      rcases List.mem_cons.mp hc with rfl | hc
      · exact hd
      · exact ih hc hrest (List.mem_of_ne_of_mem (Ne.symm hend) hnewline)

lemma semicolon_of_relaid (h : Relaid s t) :
    ';' ∈ s.takeWhile (· != '\n') ↔ ';' ∈ t.takeWhile (· != '\n') := by
  have hvisible : isBlank ';' ≠ true := by decide
  induction h with
  | stop hs ht =>
    exact ⟨fun h => absurd (hs _ ((List.takeWhile_sublist _).subset h)) hvisible,
      fun h => absurd (ht _ ((List.takeWhile_sublist _).subset h)) hvisible⟩
  | char c _ ih =>
    rw [List.takeWhile_cons, List.takeWhile_cons]
    split_ifs
    · simp only [List.mem_cons, ih]
    · rfl
  | lineBreak hu hv _ ih =>
    exact ⟨fun h => absurd (isBlank_of_mem_takeWhile_lineBreak hu h) hvisible,
      fun h => absurd (isBlank_of_mem_takeWhile_lineBreak hv h) hvisible⟩

/-- A blank follows, and later on the line that is visible next, a semicolon. -/
def GoesOn (rest : List Char) : Prop :=
  (∃ c ∈ rest.head?, isBlank c = true) ∧ ';' ∈ (trimStart rest).takeWhile (· != '\n')

lemma startsStatement_eq_true_iff (keyword : String) (s : List Char) :
    Shape.startsStatement keyword s = true ↔ ∃ rest ∈ Shape.after? keyword s, GoesOn rest := by
  unfold Shape.startsStatement GoesOn
  cases Shape.after? keyword s with
  | none => simp
  | some rest =>
    cases rest with
    | nil => simp
    | cons c rest =>
      by_cases hc : isBlank c = true
      · simp [hc, trimStart_cons_of_isBlank]
      · simp [hc]

lemma goesOn_of_relaid (h : Relaid s t) (hs : GoesOn s) : GoesOn t := by
  obtain ⟨⟨c, hhead, hc⟩, hsemicolon⟩ := hs
  rw [semicolon_of_relaid (relaid_trimStart h)] at hsemicolon
  refine ⟨?_, hsemicolon⟩
  cases t with
  | nil => cases hsemicolon
  | cons d rest =>
    refine ⟨d, rfl, ?_⟩
    by_contra hd
    rw [Bool.not_eq_true] at hd
    have := (head?_eq_of_relaid hd h).mpr rfl
    rw [Option.mem_def.mp hhead, Option.some.injEq] at this
    rw [this, hd] at hc
    cases hc

lemma startsStatement_of_relaid (hkeyword : IsVisible first) (h : Relaid s t) :
    Shape.startsStatement first s = Shape.startsStatement first t := by
  have hafter := rel_after? hkeyword h
  rw [Bool.eq_iff_iff, startsStatement_eq_true_iff, startsStatement_eq_true_iff]
  generalize Shape.after? first s = after at hafter
  generalize Shape.after? first t = after' at hafter
  cases hafter with
  | none => simp
  | some hrest =>
    simp only [Option.mem_def, Option.some.injEq, exists_eq_left']
    exact ⟨goesOn_of_relaid hrest, goesOn_of_relaid (relaid_symm hrest)⟩

/-- What the shape looks for starts with a visible character. -/
def ShowsText : Autograder.Shape → Prop
  | .anyWord _ | .word _ => True
  | .literal text | .call text | .statement text => IsVisible text

lemma showsText_of_mem_signatures {language : Language} {signature : Signature}
    (h : signature ∈ language.signatures) : ShowsText signature.shape := by
  cases language <;> fin_cases h <;> trivial

lemma anySuffix_trimStart {p : List Char → Bool}
    (hblank : ∀ c rest, isBlank c = true → p (c :: rest) = false) (s : List Char) :
    anySuffix p (trimStart s) = anySuffix p s := by
  obtain ⟨blanks, hsplit, hblanks⟩ := exists_blanks_trimStart s
  conv_rhs => rw [hsplit, anySuffix_blanks_append hblank hblanks]

theorem occursIn_of_sameLines (h : SameLines s t) (shape : Autograder.Shape)
    (hshape : ShowsText shape) : shape.occursIn s = shape.occursIn t := by
  have hrelaid := relaid_of_sameLines h
  have hsuffix {p : List Char → Bool}
      (hblank : ∀ c rest, isBlank c = true → p (c :: rest) = false)
      (hp : ∀ s t, Relaid s t → p s = p t) : anySuffix p s = anySuffix p t := by
    rw [← anySuffix_trimStart hblank s, ← anySuffix_trimStart hblank t,
      anySuffix_of_relaid hblank hp hrelaid]
  cases shape with
  | anyWord ws => simp only [Shape.occursIn, occursAsWord_of_sameLines h]
  | word w => exact occursAsWord_of_sameLines h _
  | literal text =>
    have hblank := not_isBlank_of_isVisible hshape
    exact hsuffix (fun _ rest hc => isPrefixOf_cons_of_isBlank hshape.1 hblank hc rest)
      fun _ _ => isPrefixOf_of_relaid hblank
  | call name =>
    refine hsuffix (fun c rest hc => ?_) fun _ _ => startsCall_of_relaid hshape
    rw [Shape.startsCall, after?_cons_of_isBlank hshape hc]
  | statement keyword =>
    refine hsuffix (fun c rest hc => ?_) fun _ _ => startsStatement_of_relaid hshape
    rw [Shape.startsStatement, after?_cons_of_isBlank hshape hc]

/-- The language is told from the visible lines. -/
theorem detect_of_sameLines (h : SameLines s t) : Language.detect s = Language.detect t := by
  have hsignature (language : Language) :
      language.firstSignature? s = language.firstSignature? t :=
    List.find?_congr fun _ hmem => occursIn_of_sameLines h _ (showsText_of_mem_signatures hmem)
  have hfallback : Language.fallback s = Language.fallback t := by
    have hliteral : occurs "Definir".toList s = occurs "Definir".toList t :=
      occursIn_of_sameLines h (.literal "Definir") ⟨by decide, by decide⟩
    rw [Language.fallback, Language.fallback, hliteral]
  rw [Language.detect, Language.detect, Language.recognize, Language.recognize, hsignature,
    hsignature, hfallback]

end Shapes

end Autograder.Proofs
