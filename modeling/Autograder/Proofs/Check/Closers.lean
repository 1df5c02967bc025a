import Autograder.Proofs.Check.LineForms

/-!
# What a closer does

A line that closes a construct either closes the innermost open one or is reported. There is one
exception: the words of the closers are recognised with a long s for an s, but looked up in
lowercase, where a long s stays what it is. Such a closer is neither heeded nor reported.
-/

namespace Autograder.Proofs

open Autograder.Check Autograder.Check.Pseint Autograder.Text

/-- What may come of a line that closes the construct: the innermost open construct is closed, if it
is the one that is named; else all constructs stay open, and the line is reported as unexpected. -/
inductive Answers (scope : Scope) (construct : Construct) : Scope × Option Cause → Prop where
  | closed {openedAt : Nat} {outer : List (Construct × Nat)}
      (innermost : scope.opened = (construct, openedAt) :: outer) :
      Answers scope construct ({ scope with opened := outer }, none)
  | nothingOpen (empty : scope.opened = []) :
      Answers scope construct (scope, some (.nothingOpen construct))
  | wrongCloser {other : Construct} {openedAt : Nat} {outer : List (Construct × Nat)}
      (innermost : scope.opened = (other, openedAt) :: outer) (wrong : other ≠ construct) :
      Answers scope construct (scope, some (.wrongCloser construct other openedAt))

section Answers

variable {scope : Scope} {construct : Construct}

lemma answers_close (scope : Scope) (construct : Construct) :
    Answers scope construct (scope.close construct) := by
  unfold Scope.close
  cases hopened : scope.opened with
  | nil => exact .nothingOpen hopened
  | cons innermost outer =>
    obtain ⟨other, openedAt⟩ := innermost
    by_cases heq : other = construct
    · subst heq
      simpa using Answers.closed hopened
    · simpa [heq] using Answers.wrongCloser hopened heq

lemma not_answers_unchanged : ¬ Answers scope construct (scope, none) := by
  intro h
  generalize hresult : (scope, none) = result at h
  cases h with
  | @closed openedAt outer innermost =>
    have hopened : scope.opened = outer := congrArg Scope.opened (Prod.mk.inj hresult).1
    rw [hopened] at innermost
    exact absurd (congrArg List.length innermost) (by simp)
  | nothingOpen => cases hresult
  | wrongCloser => cases hresult

end Answers

section LongS

variable {s : List Char} {word : String}

lemma long_s_mem_lowercase (h : 'ſ' ∈ s) : 'ſ' ∈ lowercase s := by
  have hself (isFinal : Bool) : lowered isFinal 'ſ' = ['ſ'] := by
    cases isFinal <;> decide +kernel
  unfold lowercase
  generalize [] = before
  induction s generalizing before with
  | nil => cases h
  | cons c rest ih =>
    rw [lowercaseAfter_cons, List.mem_append]
    rcases List.mem_cons.mp h with rfl | hrest
    · exact .inl (by simp [hself])
    · exact .inr (ih hrest _)

lemma closerOf?_of_long_s (h : 'ſ' ∈ s) : closerOf? (String.ofList s) = none := by
  have hne (word : String) (hword : 'ſ' ∉ word.toList) : (String.ofList s == word) = false := by
    refine beq_eq_false_iff_ne.mpr ?_
    rintro rfl
    rw [String.toList_ofList] at hword
    exact hword h
  simp only [closerOf?]
  rw [hne _ (by decide), hne _ (by decide), hne _ (by decide), hne _ (by decide), hne _ (by decide),
    hne _ (by decide)]
  rfl

lemma lowercase_of_key (h : key word s) (hlong : 'ſ' ∉ s) (hkelvin : 'k' ∉ word.toList)
    (hlower : word.toList.all (fun c => c.toNat < 128 && c.toLower == c) = true) :
    lowercase s = word.toList := by
  have hletters : ∀ c ∈ s, keyLetter c = c.toLower := by
    intro c hc
    have hs : c ≠ 'ſ' := ne_of_mem_of_not_mem hc hlong
    have hk : c ≠ '\u212A' := by
      rintro rfl
      apply hkelvin
      rw [← show keyText s = word.toList from h]
      exact List.mem_map_of_mem (f := keyLetter) hc
    simp [keyLetter, hs, hk]
  have hsmall : small s = word.toList := by
    rw [← show keyText s = word.toList from h]
    exact (List.map_congr_left hletters).symm
  rw [← lowercase_small, hsmall]
  refine lowercaseAfter_eq_self [] fun c hc => ?_
  have hc := List.all_eq_true.mp hlower c hc
  simp only [Bool.and_eq_true, decide_eq_true_eq, beq_iff_eq] at hc
  exact isLower_of_isAscii hc.1 hc.2

/-- The second look at the word of a closer finds the construct again, unless there is a long s. -/
lemma closerOf?_lowercase {line : List Char} {construct : Construct}
    (h : closerOf? (keyword line) = some construct) :
    closerOf? (String.ofList (lowercase (line.takeWhile isWord))) =
      if 'ſ' ∈ line.takeWhile isWord then none else some construct := by
  have hkey : key (keyword line) (line.takeWhile isWord) := by simp [key, keyword]
  split_ifs with hlong
  · exact closerOf?_of_long_s (long_s_mem_lowercase hlong)
  · have hword : 'k' ∉ (keyword line).toList ∧
        (keyword line).toList.all (fun c => c.toNat < 128 && c.toLower == c) = true := by
      unfold closerOf? at h
      split_ifs at h with hword hword hword hword hword hword <;>
        · rw [beq_iff_eq.mp hword]
          decide
    rw [lowercase_of_key hkey hlong hword.1 hword.2, String.ofList_toList, h]

end LongS

section Closers

variable {line : List Char} {construct : Construct}

/-- What the check takes a line for that starts with what closes a construct. -/
theorem classify_of_closer (h : headed (closing construct) line) :
    classify line = .closer
      (if construct ≠ .repetir ∧ 'ſ' ∈ line.takeWhile isWord then none else some construct) := by
  by_cases hrepetir : construct = .repetir
  · subst hrepetir
    simpa using classify_of_until h
  · rw [classify_of_closing hrepetir h,
      closerOf?_lowercase (closerOf?_eq_some_iff.mpr ⟨hrepetir, h⟩)]
    simp [hrepetir]

/-- A line that closes a construct is answered, in every scope, unless the closer is a word with a
long s. -/
theorem closer_answered_iff (scope : Scope) (n : Nat) (h : headed (closing construct) line) :
    Answers scope construct (scope.step n (classify line)) ↔
      construct = .repetir ∨ 'ſ' ∉ line.takeWhile isWord := by
  rw [classify_of_closer h]
  by_cases hlong : construct ≠ .repetir ∧ 'ſ' ∈ line.takeWhile isWord
  · rw [if_pos hlong]
    refine iff_of_false not_answers_unchanged ?_
    rintro (hrepetir | hshort)
    · exact hlong.1 hrepetir
    · exact hshort hlong.2
  · rw [if_neg hlong]
    refine iff_of_true (answers_close scope construct) ?_
    by_contra hnone
    rw [not_or, not_not] at hnone
    exact hlong hnone

/-- A `FinSi` in capitals does not close the `Mientras` that is innermost, and is reported. -/
theorem closer_answered_inside_mientras :
    headed (closing .si) "FINSI;".toList ∧
      Answers { opened := [(.mientras, 3), (.si, 2), (.proceso, 1)] } .si
        (Scope.step { opened := [(.mientras, 3), (.si, 2), (.proceso, 1)] } 4
          (classify "FINSI;".toList)) := by
  have hkey : keyText "FINSI".toList = "finsi".toList := by decide
  have hhead : headed (closing .si) "FINSI;".toList :=
    ⟨"FINSI".toList, ";".toList, by decide, hkey, startsOutside_cons.mpr (by decide)⟩
  exact ⟨hhead, (closer_answered_iff _ 4 hhead).mpr (.inr (by decide +kernel))⟩

/-- With a long s the closer of the innermost construct neither closes it nor is reported. -/
theorem long_s_closer_unanswered :
    headed (closing .si) "Finſi".toList ∧
      ¬ Answers { opened := [(.si, 2), (.proceso, 1)] } .si
        (Scope.step { opened := [(.si, 2), (.proceso, 1)] } 3 (classify "Finſi".toList)) := by
  have hkey : keyText "Finſi".toList = "finsi".toList := by decide
  have hhead : headed (closing .si) "Finſi".toList :=
    ⟨"Finſi".toList, [], by decide, hkey, startsOutside_nil⟩
  refine ⟨hhead, ?_⟩
  have hlong : 'ſ' ∈ "Finſi".toList.takeWhile isWord := by decide +kernel
  rw [classify_of_closer hhead, if_pos ⟨by decide, hlong⟩]
  exact not_answers_unchanged

end Closers

end Autograder.Proofs
