import Autograder.Proofs.Text.Lines
import Autograder.Proofs.Text.Scanning

/-!
# Spacing

A text is evenly spaced if its only blanks are single spaces between visible characters. Collapsing
and trimming make a text evenly spaced, and leave such a text as it is.
-/

namespace Autograder.Proofs

open Autograder.Text

/-- The only blanks are spaces, and each stands alone between two visible characters. -/
structure IsSpaced (s : List Char) : Prop where
  spaces : ∀ c ∈ s, isBlank c = true → c = ' '
  single : ¬ [' ', ' '] <:+: s
  start : s.head? ≠ some ' '
  stop : s.getLast? ≠ some ' '

section Blanks

variable {c d : Char} {s : List Char}

lemma ne_of_isBlank (hc : isBlank c = true) (hd : isBlank d = false) : c ≠ d := by
  rintro rfl
  rw [hc] at hd
  cases hd

lemma trimStart_cons_of_isBlank (h : isBlank c = true) : trimStart (c :: s) = trimStart s :=
  List.dropWhile_cons_of_pos h

lemma trimStart_cons_of_not_isBlank (h : isBlank c = false) : trimStart (c :: s) = c :: s :=
  List.dropWhile_cons_of_neg (by simp [h])

lemma trimStart_of_blanks (h : ∀ c ∈ s, isBlank c = true) : trimStart s = [] :=
  List.dropWhile_eq_nil_iff.mpr h

end Blanks

section Collapse

variable {c : Char} {s : List Char}

lemma collapseBlanks_cons_of_not_isBlank (h : isBlank c = false) :
    collapseBlanks (c :: s) = c :: collapseBlanks s := by
  simp [collapseBlanks, h]

lemma collapseBlanks_cons_of_isBlank (h : isBlank c = true) :
    collapseBlanks (c :: s) = ' ' :: collapseBlanks (trimStart s) := by
  induction s generalizing c with
  | nil => simp [collapseBlanks, trimStart, h]
  | cons d others ih =>
    by_cases hd : isBlank d = true
    · rw [trimStart_cons_of_isBlank hd, ← ih hd]
      simp [collapseBlanks, h, hd]
    · simp [collapseBlanks, trimStart, h, hd]

lemma not_two_spaces_collapseBlanks (s : List Char) : ¬ [' ', ' '] <:+: collapseBlanks s := by
  fun_induction collapseBlanks s with
  | case1 => simp
  | case2 => simp [List.infix_cons_iff]
  | case3 c hc d others hd ih => exact ih
  | case4 c hc d others hd ih =>
    rw [Bool.not_eq_true] at hd
    have hne : ' ' ≠ d := by
      rintro rfl
      exact absurd hd (by decide)
    rw [collapseBlanks_cons_of_not_isBlank hd] at ih ⊢
    simpa [List.infix_cons_iff, hne] using ih
  | case5 c rest hc ih =>
    have hne : ' ' ≠ c := by
      rintro rfl
      exact hc (by decide)
    simpa [List.infix_cons_iff, hne] using ih

lemma collapseBlanks_eq_self (hspaces : ∀ c ∈ s, isBlank c = true → c = ' ')
    (hsingle : ¬ [' ', ' '] <:+: s) : collapseBlanks s = s := by
  fun_induction collapseBlanks s with
  | case1 => rfl
  | case2 c hc => rw [hspaces c List.mem_cons_self hc]
  | case3 c hc d others hd ih =>
    obtain rfl := hspaces c List.mem_cons_self hc
    obtain rfl := hspaces d (by simp) hd
    exact absurd ⟨[], others, rfl⟩ hsingle
  | case4 c hc d others hd ih =>
    have hrest : collapseBlanks (d :: others) = d :: others :=
      ih (fun x hx => hspaces x (List.mem_cons_of_mem _ hx))
        fun hinfix => hsingle (List.infix_cons hinfix)
    rw [hrest, hspaces c List.mem_cons_self hc]
  | case5 c rest hc ih =>
    have hrest : collapseBlanks rest = rest :=
      ih (fun x hx => hspaces x (List.mem_cons_of_mem _ hx))
        fun hinfix => hsingle (List.infix_cons hinfix)
    rw [hrest]

end Collapse

section Trim

variable {c : Char} {s t blanks : List Char}

lemma trimStart_blanks_append (h : ∀ c ∈ blanks, isBlank c = true) :
    trimStart (blanks ++ s) = trimStart s :=
  List.dropWhile_append_of_pos h

lemma trim_blanks_append (h : ∀ c ∈ blanks, isBlank c = true) : trim (blanks ++ s) = trim s := by
  rw [trim, trimStart_blanks_append h, trim]

lemma trimEnd_append_blanks (h : ∀ c ∈ blanks, isBlank c = true) :
    trimEnd (s ++ blanks) = trimEnd s := by
  have hreverse : ∀ c ∈ blanks.reverse, isBlank c = true :=
    fun c hc => h c (List.mem_reverse.mp hc)
  rw [trimEnd, List.reverse_append, List.dropWhile_append_of_pos hreverse, trimEnd]

lemma trim_append_blanks (h : ∀ c ∈ blanks, isBlank c = true) : trim (s ++ blanks) = trim s := by
  unfold trim trimStart
  rw [List.dropWhile_append]
  split_ifs with hempty
  · rw [List.isEmpty_iff.mp hempty, List.dropWhile_eq_nil_iff.mpr h]
  · exact trimEnd_append_blanks h

lemma exists_blanks_trimEnd (s : List Char) :
    ∃ blanks, s = trimEnd s ++ blanks ∧ ∀ c ∈ blanks, isBlank c = true := by
  refine ⟨(s.reverse.takeWhile isBlank).reverse, ?_,
    fun c hc => List.mem_takeWhile_imp (List.mem_reverse.mp hc)⟩
  rw [trimEnd, ← List.reverse_append, List.takeWhile_append_dropWhile, List.reverse_reverse]

lemma trim_trimEnd (s : List Char) : trim (trimEnd s) = trim s := by
  obtain ⟨blanks, hsplit, hblanks⟩ := exists_blanks_trimEnd s
  conv_rhs => rw [hsplit, trim_append_blanks hblanks]

lemma trimEnd_append_congr (h : trimEnd s = trimEnd t) (before : List Char) :
    trimEnd (before ++ s) = trimEnd (before ++ t) := by
  have htrim (u : List Char) : trimEnd (before ++ u) = trimEnd (before ++ trimEnd u) := by
    obtain ⟨blanks, hsplit, hblanks⟩ := exists_blanks_trimEnd u
    conv_lhs => rw [hsplit, ← List.append_assoc, trimEnd_append_blanks hblanks]
  rw [htrim s, htrim t, h]

lemma trimEnd_isPrefix (s : List Char) : trimEnd s <+: s :=
  List.rdropWhile_prefix isBlank s

lemma trim_isInfix (s : List Char) : trim s <:+: s :=
  (trimEnd_isPrefix _).isInfix.trans (List.dropWhile_suffix _).isInfix

lemma startsOutside_trim (s : List Char) : StartsOutside isBlank (trim s) := by
  intro c hc
  apply startsOutside_dropWhile isBlank s
  obtain ⟨after, hsplit⟩ := trimEnd_isPrefix (trimStart s)
  have hhead : (trimEnd (trimStart s)).head? = some c := hc
  change (trimStart s).head? = some c
  rw [← hsplit, List.head?_append, hhead, Option.some_or]

lemma isBlank_getLast?_trim (s : List Char) : ∀ c ∈ (trim s).getLast?, isBlank c = false := by
  intro c hc
  obtain ⟨hne, rfl⟩ := List.mem_getLast?_eq_getLast hc
  exact Bool.not_eq_true _ ▸ List.rdropWhile_last_not isBlank (trimStart s) hne

lemma trim_eq_self (hstart : StartsOutside isBlank s)
    (hstop : ∀ c ∈ s.getLast?, isBlank c = false) : trim s = s := by
  rw [trim, trimStart, dropWhile_of_startsOutside hstart]
  refine List.rdropWhile_eq_self_iff.mpr fun hne => ?_
  rw [hstop _ (List.getLast_mem_getLast? hne)]
  exact Bool.false_ne_true

lemma exists_trim_blanks (s : List Char) :
    ∃ blanks, trimStart s = trim s ++ blanks ∧ ∀ c ∈ blanks, isBlank c = true :=
  exists_blanks_trimEnd (trimStart s)

lemma isBlank_of_trim_eq_nil (h : trim s = []) : ∀ c ∈ s, isBlank c = true := by
  obtain ⟨before, after, hsplit, hbefore, hafter⟩ := exists_blanks_trim s
  rw [h, List.nil_append] at hsplit
  rw [hsplit]
  exact List.forall_mem_append.mpr ⟨hbefore, hafter⟩

lemma head?_trim (s : List Char) : (trim s).head? = (trimStart s).head? := by
  by_cases h : trim s = []
  · rw [h, trimStart_of_blanks (isBlank_of_trim_eq_nil h)]
  · obtain ⟨blanks, hsplit, -⟩ := exists_trim_blanks s
    obtain ⟨c, rest, hvisible⟩ := List.exists_cons_of_ne_nil h
    rw [hsplit, hvisible]
    rfl

lemma trimEnd_collapseBlanks_of_blanks (h : ∀ c ∈ s, isBlank c = true) :
    trimEnd (collapseBlanks s) = [] := by
  cases s with
  | nil => rfl
  | cons c rest =>
    obtain ⟨hc, hrest⟩ := List.forall_mem_cons.mp h
    rw [collapseBlanks_cons_of_isBlank hc, trimStart_of_blanks hrest]
    rfl

lemma trim_collapseBlanks (s : List Char) :
    trim (collapseBlanks s) = trimEnd (collapseBlanks (trimStart s)) := by
  have hvisible (s : List Char) (hs : StartsOutside isBlank s) :
      trim (collapseBlanks s) = trimEnd (collapseBlanks s) := by
    cases s with
    | nil => rfl
    | cons c rest =>
      have hc := startsOutside_cons.mp hs
      rw [collapseBlanks_cons_of_not_isBlank hc, trim, trimStart_cons_of_not_isBlank hc]
  rw [← hvisible (trimStart s) (startsOutside_dropWhile isBlank s)]
  cases s with
  | nil => rfl
  | cons c rest =>
    by_cases hc : isBlank c = true
    · rw [collapseBlanks_cons_of_isBlank hc, ← List.singleton_append,
        trim_blanks_append (by simp; decide), trimStart_cons_of_isBlank hc]
    · rw [trimStart_cons_of_not_isBlank (by simpa using hc)]

end Trim

section Spaced

variable {s : List Char}

theorem isSpaced_trim_collapseBlanks (s : List Char) : IsSpaced (trim (collapseBlanks s)) where
  spaces _ hc hblank := eq_space_of_mem_collapseBlanks (mem_of_mem_trim hc) hblank
  single h := not_two_spaces_collapseBlanks s (h.trans (trim_isInfix _))
  start h := absurd (startsOutside_trim _ ' ' h) (by decide)
  stop h := absurd (isBlank_getLast?_trim _ ' ' h) (by decide)

theorem trim_collapseBlanks_eq_self (h : IsSpaced s) : trim (collapseBlanks s) = s := by
  rw [collapseBlanks_eq_self h.spaces h.single]
  refine trim_eq_self (fun c hc => ?_) fun c hc => ?_
  · by_contra hblank
    rw [Bool.not_eq_false] at hblank
    obtain rfl := h.spaces c (List.mem_of_mem_head? hc) hblank
    exact h.start hc
  · by_contra hblank
    rw [Bool.not_eq_false] at hblank
    obtain rfl := h.spaces c (List.mem_of_mem_getLast? hc) hblank
    exact h.stop hc

end Spaced

end Autograder.Proofs
