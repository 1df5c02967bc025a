import Autograder.Check.C
import Autograder.Check.Pseint
import Autograder.Grading.Outcome
import Autograder.Proofs.Check.Directives
import Autograder.Proofs.Source.MaskedLines

/-!
# The checks see visible lines only

Both checks go through the lines of a text, trim them and pass over blank ones. So texts with the
same visible lines get the same findings, each on the line that stands at the same place.
-/

namespace Autograder.Proofs

open Autograder.Check Autograder.Text Autograder.Source

/-- Two findings of one kind: both on no line in particular, or on lines that correspond. -/
structure Corresponds (R : Nat → Nat → Prop) (finding other : Finding) : Prop where
  kind : finding.kind = other.kind
  line : (finding.line = 0 ∧ other.line = 0) ∨ R finding.line other.line

section C

open Check.C

variable {s t : List Char}

/-- The identifiers of a visible line, if it is not for the preprocessor. -/
def identifiersOf (line : List Char) : List (List Char) :=
  if line.head? = some '#' then [] else (words line).filter fun word => word.head?.any isIdentStart

lemma incompleteLines_eq (masked : List Char) : incompleteLines masked =
    (visibleLines masked).filterMap fun p =>
      if C.classify p.1 = .incomplete then some p.2 else none := by
  rw [visibleLines, ← filterMap_zipIdx_trim fun _ => rfl, incompleteLines, lineForms,
    List.zipIdx_map, List.filterMap_map]
  rfl

lemma declaredNames_eq (masked : List Char) : declaredNames masked =
    ((visibleLines masked).map Prod.fst).filterMap fun line =>
      match C.classify line with
      | .declaration name => some name
      | _ => none := by
  rw [visibleLines, map_fst_numberedRows, ← filterMap_trim rfl, declaredNames, lineForms,
    List.filterMap_map]
  rfl

lemma identifiers_eq (masked : List Char) :
    identifiers masked = ((visibleLines masked).map Prod.fst).flatMap identifiersOf := by
  rw [visibleLines_eq_segments, map_fst_numberedRows, ← flatMap_trim rfl, identifiers_eq_segments]
  induction segments masked with
  | nil => rfl
  | cons row rest ih =>
    rw [List.flatMap_cons, List.filter_cons, ← ih, identifiersOf, words_trim, head?_trim]
    by_cases hdirective : IsDirective row
    · simp [hdirective, show (trimStart row).head? = some '#' from hdirective]
    · simp [hdirective, show (trimStart row).head? ≠ some '#' from hdirective]

theorem forall₂_check_c {R : Nat → Nat → Prop}
    (h : Aligned R (visibleLines (mask s)) (visibleLines (mask t))) :
    List.Forall₂ (Corresponds R) (Check.C.check s) (Check.C.check t) := by
  have hlines := map_fst_eq_of_aligned h
  have hincomplete : List.Forall₂ R (incompleteLines (mask s)) (incompleteLines (mask t)) := by
    rw [incompleteLines_eq, incompleteLines_eq]
    refine List.rel_filterMap ?_ h
    rintro ⟨line, m⟩ ⟨-, n⟩ ⟨rfl, hnumber⟩
    dsimp only
    split_ifs
    · exact .some hnumber
    · exact .none
  have hundeclared : undeclaredNames (mask s) = undeclaredNames (mask t) := by
    simp only [undeclaredNames, declaredNames_eq, identifiers_eq, hlines]
  rw [Check.C.check, Check.C.check, hundeclared]
  refine List.rel_append ?_ ?_
  · refine List.rel_map ?_ hincomplete
    exact fun m n hnumber => ⟨rfl, .inr hnumber⟩
  · exact List.forall₂_same.mpr fun finding hfinding => by
      obtain ⟨name, -, rfl⟩ := List.mem_map.mp hfinding
      exact ⟨rfl, .inl ⟨rfl, rfl⟩⟩

lemma check_c_of_visibleLines (h : visibleLines (mask s) = visibleLines (mask t)) :
    Check.C.check s = Check.C.check t := by
  simp only [Check.C.check, undeclaredNames, incompleteLines_eq, declaredNames_eq, identifiers_eq,
    h]

end C

section Pseint

open Check.Pseint

variable {R : Nat → Nat → Prop} {scope other : Scope}

/-- The form of a visible line, unless a comment is all that it shows. -/
def formOf? (line : List Char) : Option LineForm :=
  let statement := trim (stripLineComment line)
  if statement.isEmpty then none else some (classify statement)

lemma numberedForms_eq (code : List Char) : numberedForms code =
    (visibleLines code).filterMap fun p => (formOf? p.1).map (·, p.2) := by
  rw [visibleLines, ← filterMap_zipIdx_trim fun _ => rfl, numberedForms]
  refine List.filterMap_congr fun p _ => ?_
  simp only [formOf?, statementOf]
  by_cases hempty : (trim (stripLineComment (trim p.1))).isEmpty = true <;>
    simp only [hempty] <;> rfl

/-- Whether a line ends in a carriage return makes no difference to its form. -/
lemma numberedForms_eq_segments (code : List Char) : numberedForms code =
    (((segments code).map statementOf).zipIdx 1).filterMap fun p =>
      if p.1.isEmpty then none else some (classify p.1, p.2) := by
  rw [numberedForms_eq, visibleLines_eq_segments, ← filterMap_zipIdx_trim fun _ => rfl,
    List.zipIdx_map, List.filterMap_map]
  refine List.filterMap_congr fun p _ => ?_
  simp only [formOf?, statementOf, Function.comp_apply, Prod.map]
  by_cases hempty : (trim (stripLineComment (trim p.1))).isEmpty = true <;>
    simp only [hempty] <;> rfl

lemma check_pseint_of_statements {s t : List Char}
    (h : (segments s).map statementOf = (segments t).map statementOf) :
    Check.Pseint.check s = Check.Pseint.check t := by
  rw [Check.Pseint.check, Check.Pseint.check, numberedForms_eq_segments, numberedForms_eq_segments,
    h]

/-- The same names, and the same open constructs with headers on lines that correspond. -/
structure SameScope (R : Nat → Nat → Prop) (scope other : Scope) : Prop where
  defined : scope.defined = other.defined
  opened : Aligned R scope.opened other.opened

/-- Nothing is wrong with either of two lines, or the same kind of thing with both. -/
def SameCause (cause other : Option Cause) : Prop :=
  Option.Rel (fun c d => ∀ m n, (Finding.mk m c).kind = (Finding.mk n d).kind) cause other

lemma sameCause_refl (cause : Option Cause) : SameCause cause cause := by
  cases cause with
  | none => exact .none
  | some cause => exact .some fun _ _ => rfl

lemma forall₂_of_sameCause {cause cause' : Option Cause} {m n : Nat} (h : SameCause cause cause')
    (hnumber : R m n) : List.Forall₂ (Corresponds R) (cause.map (Finding.mk m)).toList
      (cause'.map (Finding.mk n)).toList := by
  cases h with
  | none => exact .nil
  | some hkind => exact .cons ⟨hkind m n, .inr hnumber⟩ .nil

lemma sameScope_close (h : SameScope R scope other) (closing : Construct) :
    SameScope R (scope.close closing).1 (other.close closing).1 ∧
      SameCause (scope.close closing).2 (other.close closing).2 := by
  obtain ⟨hdefined, hopened⟩ := h
  unfold Scope.close
  generalize hs : scope.opened = s at hopened
  generalize ht : other.opened = t at hopened
  cases hopened with
  | nil => exact ⟨⟨hdefined, by rw [hs, ht]; exact .nil⟩, sameCause_refl _⟩
  | @cons p q outer outer' hitem houter =>
    obtain ⟨innermost, m⟩ := p
    obtain ⟨innermost', n⟩ := q
    obtain ⟨rfl, hnumber⟩ : innermost = innermost' ∧ R m n := hitem
    by_cases heq : innermost = closing
    · simp only [heq, if_true]
      exact ⟨⟨hdefined, houter⟩, .none⟩
    · simp only [heq, if_false]
      exact ⟨⟨hdefined, by rw [hs, ht]; exact .cons ⟨rfl, hnumber⟩ houter⟩, .some fun _ _ => rfl⟩

lemma sameScope_step {m n : Nat} (h : SameScope R scope other) (hnumber : R m n)
    (form : LineForm) : SameScope R (scope.step m form).1 (other.step n form).1 ∧
      SameCause (scope.step m form).2 (other.step n form).2 := by
  cases form with
  | closer construct =>
    cases construct with
    | none => exact ⟨h, .none⟩
    | some construct => exact sameScope_close h construct
  | separator => exact ⟨h, .none⟩
  | definition names =>
    cases names with
    | none => exact ⟨h, sameCause_refl _⟩
    | some names => exact ⟨⟨congrArg (names ++ ·) h.defined, h.opened⟩, .none⟩
  | header construct wellFormed =>
    exact ⟨⟨h.defined, .cons ⟨rfl, hnumber⟩ h.opened⟩, sameCause_refl _⟩
  | assignment name =>
    refine ⟨h, ?_⟩
    simp only [Scope.step, h.defined]
    exact sameCause_refl _
  | statement terminated =>
    refine ⟨h, ?_⟩
    have hempty : scope.opened.isEmpty = other.opened.isEmpty := by
      rw [← List.isEmpty_map (f := Prod.fst), map_fst_eq_of_aligned h.opened, List.isEmpty_map]
    simp only [Scope.step, hempty]
    exact sameCause_refl _

lemma sameScope_run {forms forms' : List (LineForm × Nat)} (h : SameScope R scope other)
    (hforms : Aligned R forms forms') :
    SameScope R (scope.run forms).1 (other.run forms').1 ∧
      List.Forall₂ (Corresponds R) (scope.run forms).2 (other.run forms').2 := by
  induction hforms generalizing scope other with
  | nil => exact ⟨h, .nil⟩
  | @cons p q rest rest' hitem _ ih =>
    obtain ⟨form, m⟩ := p
    obtain ⟨form', n⟩ := q
    obtain ⟨rfl, hnumber⟩ : form = form' ∧ R m n := hitem
    obtain ⟨hstep, hcause⟩ := sameScope_step h hnumber form
    obtain ⟨hlast, hfindings⟩ := ih hstep
    exact ⟨hlast, List.rel_append (forall₂_of_sameCause hcause hnumber) hfindings⟩

lemma forall₂_unclosed (h : SameScope R scope other) :
    List.Forall₂ (Corresponds R) scope.unclosed other.unclosed := by
  refine List.rel_map ?_ (List.rel_reverse h.opened)
  exact fun _ _ _ => ⟨rfl, .inl ⟨rfl, rfl⟩⟩

theorem forall₂_check_pseint {s t : List Char}
    (h : Aligned R (visibleLines s) (visibleLines t)) :
    List.Forall₂ (Corresponds R) (Check.Pseint.check s) (Check.Pseint.check t) := by
  have hforms : Aligned R (numberedForms s) (numberedForms t) := by
    rw [numberedForms_eq, numberedForms_eq]
    exact aligned_filterMap formOf? h
  have hstart : SameScope R {} {} := ⟨rfl, .nil⟩
  obtain ⟨hscope, hfindings⟩ := sameScope_run hstart hforms
  exact List.rel_append hfindings (forall₂_unclosed hscope)

end Pseint

/-- The findings in texts with the same visible lines are of the same kinds and stand on the same
lines. -/
theorem forall₂_check {s t : List Char} (h : SameLines s t)
    (hs : ∀ p ∈ visibleLines s, p.1.getLast? ≠ some '\\') (language : Language) :
    List.Forall₂ (Corresponds (SameLine s t)) (language.check s) (language.check t) := by
  cases language with
  | c => exact forall₂_check_c (aligned_visibleLines_mask h hs)
  | pseint => exact forall₂_check_pseint (aligned_visibleLines h)

end Autograder.Proofs
