import Autograder.Proofs.Source.MaskedLines

/-!
# Masking in place

Masking moves nothing. Every character stays as it is or becomes a space, and no newline comes or
goes, whatever is left open at the end of the text. So rows keep their widths, and a line of the
masked text has the number that it has in the text.
-/

namespace Autograder.Proofs

open Autograder.Text Autograder.Source

/-- What may become of a character where it stands. -/
structure IsLeftOrBlanked (c d : Char) : Prop where
  left : d = c ∨ d = ' '
  newline : d = '\n' ↔ c = '\n'

/-- The second text is the first one, masked in place. -/
structure IsMaskedInPlace (code masked : List Char) : Prop where
  length : masked.length = code.length
  left : ∀ place : Nat, masked[place]? = code[place]? ∨ masked[place]? = some ' '
  newline : ∀ place : Nat, masked[place]? = some '\n' ↔ code[place]? = some '\n'
  /-- What is blanked is what the scan counts to literals and comments. -/
  blanked : masked = (roles .code code).map shown
  widths : (segments masked).map List.length = (segments code).map List.length
  lines : (lines masked).length = (lines code).length

section Character

lemma isLeftOrBlanked_shown (p : Char × Role) : IsLeftOrBlanked p.1 (shown p) where
  left := by
    obtain ⟨c, role⟩ := p
    cases role with
    | code => exact .inl rfl
    | literal | comment =>
      simp only [shown, blankOut]
      split_ifs with hc
      · exact .inl (beq_iff_eq.mp hc).symm
      · exact .inr rfl
  newline := shown_eq_newline_iff

theorem forall₂_maskFrom (state : MaskState) (s : List Char) :
    List.Forall₂ IsLeftOrBlanked s (maskFrom state s) := by
  have hroles : (roles state s).map Prod.fst = s := map_fst_roles state s
  rw [maskFrom_eq_map_shown]
  generalize roles state s = chars at hroles ⊢
  subst hroles
  rw [List.forall₂_map_left_iff, List.forall₂_map_right_iff, List.forall₂_same]
  intro p _
  exact isLeftOrBlanked_shown p

end Character

section Rows

variable {s t : List Char}

lemma length_consFirst (c : Char) (pieces : List (List Char)) :
    (consFirst c pieces).length = max 1 pieces.length := by
  cases pieces with
  | nil => rfl
  | cons first others =>
    simp only [consFirst, List.length_cons]
    omega

lemma length_lines_cons {c : Char} (hc : c ≠ '\n') (s : List Char) :
    (lines (c :: s)).length = max 1 (lines s).length := by
  by_cases hreturn : ∃ rest, c = '\r' ∧ s = '\n' :: rest
  · -- the carriage return takes the place of the empty line that its newline ends
    obtain ⟨rest, rfl, rfl⟩ := hreturn
    simp only [lines, List.length_cons]
    omega
  · rw [lines, length_consFirst]
    · exact hc
    · rintro rest rfl rfl
      exact hreturn ⟨rest, rfl, rfl⟩

lemma length_lines_of_forall₂ (h : List.Forall₂ IsLeftOrBlanked s t) :
    (lines t).length = (lines s).length := by
  induction h with
  | nil => rfl
  | @cons c d s t hchar _ ih =>
    by_cases hc : c = '\n'
    · rw [hc, hchar.newline.mpr hc, lines, lines, List.length_cons, List.length_cons, ih]
    · have hd : d ≠ '\n' := fun hd => hc (hchar.newline.mp hd)
      rw [length_lines_cons hc, length_lines_cons hd, ih]

lemma forall₂_segments (h : List.Forall₂ IsLeftOrBlanked s t) :
    List.Forall₂ (List.Forall₂ IsLeftOrBlanked) (segments s) (segments t) := by
  induction h with
  | nil => exact .cons .nil .nil
  | @cons c d s t hchar _ ih =>
    unfold segments at ih ⊢
    by_cases hc : c = '\n'
    · rw [hc, hchar.newline.mpr hc, Text.splitAt, Text.splitAt]
      exact .cons .nil ih
    · have hd : d ≠ '\n' := fun hd => hc (hchar.newline.mp hd)
      rw [Text.splitAt, Text.splitAt, if_neg (by simpa using hc), if_neg (by simpa using hd)]
      generalize Text.splitAt _ s = rows, Text.splitAt _ t = others at ih ⊢
      cases ih with
      | nil => exact .cons (.cons hchar .nil) .nil
      | cons hrow hrows => exact .cons (.cons hchar hrow) hrows

lemma map_length_segments_of_forall₂ (h : List.Forall₂ IsLeftOrBlanked s t) :
    (segments t).map List.length = (segments s).map List.length := by
  have hrows := (forall₂_segments h).imp fun _ _ hrow => hrow.length_eq
  rw [← List.forall₂_eq_eq_eq, List.forall₂_map_left_iff, List.forall₂_map_right_iff]
  exact hrows.flip.imp fun _ _ hlength => hlength.symm

end Rows

section Places

variable {s t : List Char}

lemma getElem?_of_forall₂ (h : List.Forall₂ IsLeftOrBlanked s t) (place : Nat) :
    (s[place]? = none ∧ t[place]? = none) ∨
      ∃ c d, s[place]? = some c ∧ t[place]? = some d ∧ IsLeftOrBlanked c d := by
  induction h generalizing place with
  | nil => exact .inl ⟨rfl, rfl⟩
  | cons hchar _ ih =>
    cases place with
    | zero => exact .inr ⟨_, _, rfl, rfl, hchar⟩
    | succ place => simpa using ih place

lemma left_of_forall₂ (h : List.Forall₂ IsLeftOrBlanked s t) (place : Nat) :
    t[place]? = s[place]? ∨ t[place]? = some ' ' := by
  obtain ⟨hs, ht⟩ | ⟨c, d, hs, ht, hchar⟩ := getElem?_of_forall₂ h place
  · exact .inl (ht.trans hs.symm)
  · rw [hs, ht]
    exact hchar.left.imp (congrArg some) (congrArg some)

lemma newline_iff_of_forall₂ (h : List.Forall₂ IsLeftOrBlanked s t) (place : Nat) :
    t[place]? = some '\n' ↔ s[place]? = some '\n' := by
  obtain ⟨hs, ht⟩ | ⟨c, d, hs, ht, hchar⟩ := getElem?_of_forall₂ h place
  · rw [hs, ht]
  · rw [hs, ht, Option.some_inj, Option.some_inj]
    exact hchar.newline

end Places

/-- Masking leaves every character where it stands or blanks it there, and every newline stays. So
the masked text has the rows and the lines of the text. -/
theorem mask_keeps_places (code : List Char) : IsMaskedInPlace code (mask code) := by
  have hchars : List.Forall₂ IsLeftOrBlanked code (mask code) := forall₂_maskFrom .code code
  exact {
    length := hchars.length_eq.symm
    left := left_of_forall₂ hchars
    newline := newline_iff_of_forall₂ hchars
    blanked := maskFrom_eq_map_shown .code code
    widths := map_length_segments_of_forall₂ hchars
    lines := length_lines_of_forall₂ hchars }

/-- The literal goes on behind the newline that is escaped, and the comment is never closed. -/
example : mask "s = \"a\\\n/*\n/* b\\".toList = "s = \"  \n  \n     ".toList := by
  decide

end Autograder.Proofs
