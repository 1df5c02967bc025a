import Autograder.Proofs.Check.Shapes
import Autograder.Proofs.Check.VisibleLines
import Autograder.Proofs.Source.LetterCase

/-!
# Pseudocode in any letter case

The keywords of the pseudocode are read in any letter case, and names are compared by their
lowercase forms. So a line is the same to the check whether its ASCII letters are small or not,
except that an assignment keeps the spelling of its name; and that spelling only shows in the
message.
-/

namespace Autograder.Proofs

open Autograder.Check Autograder.Check.Pseint Autograder.Text Autograder.Source

section Words

lemma keyLetter_of_ascii {c : Char} (h : c.toNat < 128) : keyLetter c = c.toLower := by
  have hlong : c ≠ 'ſ' := by
    rintro rfl
    exact absurd h (by decide)
  have hkelvin : c ≠ '\u212A' := by
    rintro rfl
    exact absurd h (by decide)
  simp [keyLetter, hlong, hkelvin]

lemma keyLetter_toLower (c : Char) : keyLetter c.toLower = keyLetter c := by
  by_cases hascii : c.toNat < 128
  · obtain ⟨hsmall, hagain⟩ := toLower_toLower hascii
    rw [keyLetter_of_ascii hascii, keyLetter_of_ascii hsmall, hagain]
  · rw [toLower_of_not_ascii (by omega)]

lemma keyText_small (s : List Char) : keyText (small s) = keyText s := by
  have hletter : keyLetter ∘ Char.toLower = keyLetter := funext keyLetter_toLower
  rw [keyText, small, List.map_map, hletter]
  rfl

lemma keyword_small (line : List Char) : keyword (small line) = keyword line := by
  rw [keyword, takeWhile_small isWord_toLower, keyText_small]
  rfl

lemma afterKey?_small (key : String) (s : List Char) :
    afterKey? key (small s) = (afterKey? key s).map small := by
  have htake (n : Nat) : (small s).take n = small (s.take n) := List.map_take.symm
  have hdrop (n : Nat) : (small s).drop n = small (s.drop n) := List.map_drop.symm
  simp only [afterKey?, htake, hdrop, keyText_small]
  split_ifs <;> rfl

lemma afterBlanks?_small (s : List Char) : afterBlanks? (small s) = (afterBlanks? s).map small := by
  cases s with
  | nil => rfl
  | cons c s =>
    simp only [small_cons, afterBlanks?, isBlank_toLower, trimStart_small]
    split_ifs <;> rfl

lemma takeName?_small (s : List Char) :
    takeName? (small s) = (takeName? s).map (Prod.map small small) := by
  cases s with
  | nil => rfl
  | cons c s =>
    simp only [small_cons, takeName?, keyLetter_toLower, takeWhile_small isWord_toLower,
      dropWhile_small isWord_toLower]
    split_ifs <;> rfl

lemma afterArrow?_small (s : List Char) : afterArrow? (small s) = (afterArrow? s).map small := by
  apply Option.ext
  intro rest
  rw [afterArrow?_eq_some_iff, Option.map_eq_some_iff]
  constructor
  · intro h
    change small s = '<' :: '-' :: rest at h
    obtain ⟨afterFirst, rfl, hfirst⟩ := exists_of_small_eq_cons rfl h
    obtain ⟨behind, rfl, hbehind⟩ := exists_of_small_eq_cons rfl hfirst
    exact ⟨behind, rfl, hbehind⟩
  · rintro ⟨behind, hbehind, rfl⟩
    rw [afterArrow?_eq_some_iff.mp hbehind]
    rfl

end Words

section Definitions

/-- If each of two readings only writes its result small when its text is small, so do the two one
after the other. -/
lemma bind_map_eq {α β γ δ : Type} {f : α → β} {g : γ → δ} {next : α → Option γ}
    {nextSmall : β → Option δ} (h : ∀ a, nextSmall (f a) = (next a).map g) (read : Option α) :
    (read.map f).bind nextSmall = (read.bind next).map g := by
  cases read with
  | none => rfl
  | some a => exact h a

lemma moreNames?_small (fuel : Nat) (s : List Char) :
    moreNames? fuel (small s) = (moreNames? fuel s).map (Prod.map (·.map small) small) := by
  induction fuel generalizing s with
  | zero => rfl
  | succ fuel ih =>
    unfold moreNames?
    rw [trimStart_small]
    cases trimStart s with
    | nil => rfl
    | cons c rest =>
      by_cases hc : c = ','
      · subst hc
        change (takeName? (trimStart (small rest))).bind _ = _
        rw [trimStart_small, takeName?_small]
        refine bind_map_eq ?_ _
        rintro ⟨name, others⟩
        change (moreNames? fuel (small others)).bind _ = ((moreNames? fuel others).bind _).map _
        rw [ih]
        refine bind_map_eq (fun more => ?_) _
        rfl
      · have hsmall : c.toLower ≠ ',' := mt (toLower_eq_iff rfl).mp hc
        simp only [small_cons]
        split
        · next heq => exact absurd (List.cons.inj heq).1 hsmall
        · split
          · next heq => exact absurd (List.cons.inj heq).1 hc
          · rfl

lemma atMostSemicolon_small (s : List Char) :
    [[], [';']].contains (small s) = [[], [';']].contains s := by
  have hsemicolon : small s = [';'] ↔ s = [';'] := by
    constructor
    · intro h
      obtain ⟨rest, rfl, hrest⟩ := exists_of_small_eq_cons rfl h
      rw [small_eq_nil_iff.mp hrest]
    · rintro rfl
      rfl
  rw [Bool.eq_iff_iff, List.contains_iff_mem, List.contains_iff_mem, List.mem_pair, List.mem_pair,
    small_eq_nil_iff, hsemicolon]

lemma isTypeClause_small (s : List Char) : isTypeClause (small s) = isTypeClause s := by
  unfold isTypeClause
  rw [afterBlanks?_small]
  cases afterBlanks? s with
  | none => rfl
  | some s =>
    simp only [Option.map_some, afterKey?_small]
    cases afterKey? "como" s with
    | none => rfl
    | some s =>
      simp only [Option.map_some, afterBlanks?_small]
      cases afterBlanks? s with
      | none => rfl
      | some s =>
        simp only [Option.map_some, keyword_small, dropWhile_small isWord_toLower, trimStart_small,
          atMostSemicolon_small]

lemma definedNames?_small (line : List Char) :
    definedNames? (small line) = (definedNames? line).map (·.map small) := by
  unfold definedNames?
  rw [afterKey?_small]
  refine bind_map_eq (fun s => ?_) _
  rw [afterBlanks?_small]
  refine bind_map_eq (fun s => ?_) _
  rw [takeName?_small]
  refine bind_map_eq (fun found => ?_) _
  change (moreNames? (small found.2).length (small found.2)).bind _ = _
  rw [length_small, moreNames?_small]
  refine bind_map_eq (fun more => ?_) _
  dsimp only [Prod.map]
  rw [isTypeClause_small]
  split_ifs <;> rfl

end Definitions

section Headers

lemma conditionOf_small (rest : List Char) :
    conditionOf (small rest) = small (conditionOf rest) := by
  have htake (n : Nat) (s : List Char) : (small s).take n = small (s.take n) := List.map_take.symm
  unfold conditionOf
  simp only [trim_small, ← small_reverse, takeWhile_small isWord_toLower, keyText_small,
    length_small, htake, trimEnd_small]
  split_ifs <;> rfl

lemma startsUpperBound_small (s : List Char) : startsUpperBound (small s) = startsUpperBound s := by
  cases s with
  | nil => rfl
  | cons c s =>
    simp only [small_cons, startsUpperBound, isBlank_toLower, afterKey?_small]
    rcases afterKey? "hasta" s with _ | _ | ⟨d, _ | ⟨e, others⟩⟩
    · rfl
    · rfl
    · rfl
    · simp only [Option.map_some, small_cons, isBlank_toLower]

/-- What stands behind the arrow of a `Para` line. -/
def afterStart? (line : List Char) : Option (List Char) := do
  let s ← afterKey? "para" line
  let s ← afterBlanks? s
  let (_, s) ← takeName? s
  afterArrow? (trimStart s)

lemma afterStart?_small (line : List Char) :
    afterStart? (small line) = (afterStart? line).map small := by
  unfold afterStart?
  rw [afterKey?_small]
  refine bind_map_eq (fun s => ?_) _
  rw [afterBlanks?_small]
  refine bind_map_eq (fun s => ?_) _
  rw [takeName?_small]
  refine bind_map_eq (fun found => ?_) _
  dsimp only [Prod.map]
  rw [trimStart_small, afterArrow?_small]

lemma isForHeader_eq (line : List Char) : isForHeader line =
    match afterStart? line with
    | some (_ :: rest) => anySuffix startsUpperBound rest
    | _ => false := by
  unfold isForHeader afterStart?
  rfl

lemma isForHeader_small (line : List Char) : isForHeader (small line) = isForHeader line := by
  rw [isForHeader_eq, isForHeader_eq, afterStart?_small]
  match afterStart? line with
  | none | some [] => rfl
  | some (_ :: rest) => exact anySuffix_small startsUpperBound_small rest

lemma isUntil_small (line : List Char) : isUntil (small line) = isUntil line := by
  unfold isUntil
  rw [afterKey?_small, bind_map_eq afterBlanks?_small]
  cases (afterKey? "hasta" line).bind afterBlanks? with
  | none => rfl
  | some s => simp only [Option.map_some, keyword_small]

lemma isSeparator_small (line : List Char) : isSeparator (small line) = isSeparator line := by
  unfold isSeparator
  have hmode : ((afterKey? "de" line).map small).bind (fun s => afterKey? "otro" (trimStart s)) =
      ((afterKey? "de" line).bind fun s => afterKey? "otro" (trimStart s)).map small :=
    bind_map_eq (fun s => by rw [trimStart_small, afterKey?_small]) _
  rw [keyword_small, afterKey?_small, hmode]
  cases (afterKey? "de" line).bind fun s => afterKey? "otro" (trimStart s) with
  | none => rfl
  | some s => simp only [Option.map_some, trimStart_small, keyword_small]

lemma assignedName?_small (line : List Char) :
    assignedName? (small line) = (assignedName? line).map small := by
  unfold assignedName?
  rw [takeName?_small]
  refine bind_map_eq (fun found => ?_) _
  change (afterArrow? (trimStart (small found.2))).bind _ = _
  rw [trimStart_small, afterArrow?_small]
  refine bind_map_eq (fun s => ?_) _
  rw [isEmpty_small]
  split_ifs <;> rfl

lemma isWellFormedHeader_small (construct : Construct) (line : List Char) :
    isWellFormedHeader construct (small line) = isWellFormedHeader construct line := by
  cases construct with
  | si =>
    simp only [isWellFormedHeader, dropWhile_small isWord_toLower, conditionOf_small, isEmpty_small]
  | para => exact isForHeader_small line
  | _ => rfl

end Headers

section Forms

variable {form other : LineForm}

/-- Two forms of lines, the same except for the spelling of a name that is assigned to. -/
inductive SameForm : LineForm → LineForm → Prop where
  | refl (form : LineForm) : SameForm form form
  | assignment {name name' : List Char} (spelled : lowercase name = lowercase name') :
      SameForm (.assignment name) (.assignment name')

lemma sameForm_classify_small (line : List Char) :
    SameForm (classify (small line)) (classify line) := by
  have hdefined : (definedNames? (small line)).map (·.map lowercase) =
      (definedNames? line).map (·.map lowercase) := by
    rw [definedNames?_small, Option.map_map]
    congr 1
    funext names
    simp [lowercase_small]
  have hlast : ((small line).getLast? == some ';') = (line.getLast? == some ';') := by
    rw [small, List.getLast?_map]
    cases line.getLast? with
    | none => rfl
    | some c => exact beq_toLower rfl
  have hword : lowercase ((small line).takeWhile isWord) = lowercase (line.takeWhile isWord) := by
    rw [takeWhile_small isWord_toLower, lowercase_small]
  unfold classify
  simp only [keyword_small, isUntil_small, isSeparator_small, hdefined, hlast, hword,
    isWellFormedHeader_small, assignedName?_small]
  split_ifs with hcloser huntil hseparator hdefinition
  · exact .refl _
  · exact .refl _
  · exact .refl _
  · exact .refl _
  · cases openerOf? (keyword line) with
    | some construct => exact .refl _
    | none =>
      cases assignedName? line with
      | none => exact .refl _
      | some name => exact .assignment (lowercase_small name)

lemma statementOf_small (line : List Char) :
    statementOf (small line) = small (statementOf line) := by
  simp only [statementOf, trim_small, stripLineComment_small]

lemma forall₂_numberedForms_small (s : List Char) :
    List.Forall₂ (fun p q => SameForm p.1 q.1 ∧ p.2 = q.2) (numberedForms (small s))
      (numberedForms s) := by
  rw [numberedForms, numberedForms, lines_small, List.zipIdx_map]
  refine List.rel_filterMap (R := fun p q => p = Prod.map small id q) ?_ ?_
  · rintro p ⟨line, n⟩ rfl
    simp only [Prod.map, id_eq, statementOf_small, isEmpty_small]
    split_ifs with hempty
    · exact .none
    · refine .some ?_
      dsimp only
      exact ⟨sameForm_classify_small (statementOf line), rfl⟩
  · exact List.forall₂_map_left_iff.mpr (List.forall₂_same.mpr fun _ _ => rfl)

end Forms

section Findings

/-- The line of a finding and its kind. -/
def mark (finding : Finding) : Nat × FaultKind :=
  (finding.line, finding.kind)

lemma step_of_sameForm {form other : LineForm} (h : SameForm form other) (scope : Scope)
    (n : Nat) : (scope.step n form).1 = (scope.step n other).1 ∧
      ((scope.step n form).2.map (Finding.mk n)).map mark =
        ((scope.step n other).2.map (Finding.mk n)).map mark := by
  cases h with
  | refl => exact ⟨rfl, rfl⟩
  | assignment spelled =>
    refine ⟨rfl, ?_⟩
    simp only [Scope.step, spelled]
    split_ifs <;> rfl

lemma run_of_sameForms {forms others : List (LineForm × Nat)}
    (h : List.Forall₂ (fun p q => SameForm p.1 q.1 ∧ p.2 = q.2) forms others) (scope : Scope) :
    (scope.run forms).1 = (scope.run others).1 ∧
      (scope.run forms).2.map mark = (scope.run others).2.map mark := by
  induction h generalizing scope with
  | nil => exact ⟨rfl, rfl⟩
  | @cons p q forms others hitem _ ih =>
    obtain ⟨form, n⟩ := p
    obtain ⟨other, n'⟩ := q
    obtain ⟨hform, rfl⟩ : SameForm form other ∧ n = n' := hitem
    obtain ⟨hscope, hcause⟩ := step_of_sameForm hform scope n
    obtain ⟨hlast, hfindings⟩ := ih (scope.step n form).1
    have hhead : ((scope.step n form).2.map (Finding.mk n)).toList.map mark =
        ((scope.step n other).2.map (Finding.mk n)).toList.map mark := by
      rw [← Option.toList_map, ← Option.toList_map, hcause]
    rw [hscope] at hlast hfindings
    simp only [Scope.run, List.map_append, hscope, hlast, hfindings, hhead, and_self]

/-- The check of pseudocode finds the same kinds of things on the same lines in a text and in the
text with its ASCII letters small. -/
theorem map_mark_check_small (s : List Char) :
    (Check.Pseint.check (small s)).map mark = (Check.Pseint.check s).map mark := by
  obtain ⟨hscope, hfindings⟩ := run_of_sameForms (forall₂_numberedForms_small s) {}
  simp only [Check.Pseint.check, List.map_append, hscope, hfindings]

lemma map_mark_check_of_sameLetters {s t : List Char} (h : SameLetters s t) :
    (Check.Pseint.check s).map mark = (Check.Pseint.check t).map mark := by
  rw [← map_mark_check_small s, ← map_mark_check_small t, h]

end Findings

end Autograder.Proofs
