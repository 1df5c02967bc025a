import Mathlib
import Autograder.Text.Blank
import Autograder.Text.Word

/-!
# Scanning runs of characters

A run of characters of one kind is read up to the first character of another kind. Blanks and word
characters exclude each other, so blanks end words and words end blanks.
-/

namespace Autograder.Proofs

open Autograder.Text

/-- The text does not start with a character that satisfies `p`. -/
def StartsOutside (p : Char → Bool) (s : List Char) : Prop :=
  ∀ c ∈ s.head?, p c = false

section Runs

variable {p : Char → Bool} {c : Char} {run s : List Char}

lemma startsOutside_nil : StartsOutside p [] := by
  intro c h
  cases h

lemma startsOutside_cons : StartsOutside p (c :: s) ↔ p c = false := by
  simp [StartsOutside]

lemma startsOutside_of_all (h : ∀ c ∈ s, p c = false) : StartsOutside p s :=
  fun c hc => h c (List.mem_of_mem_head? hc)

lemma startsOutside_append (hrun : ∀ c ∈ run, p c = false) (hs : StartsOutside p s) :
    StartsOutside p (run ++ s) := by
  cases run with
  | nil => exact hs
  | cons c rest => exact startsOutside_cons.mpr (hrun c List.mem_cons_self)

lemma startsOutside_dropWhile (p : Char → Bool) (s : List Char) :
    StartsOutside p (s.dropWhile p) := by
  intro c h
  have hhead := List.head?_dropWhile_not p s
  rw [Option.mem_def.mp h] at hhead
  simpa using hhead

lemma takeWhile_of_startsOutside (h : StartsOutside p s) : s.takeWhile p = [] := by
  cases s with
  | nil => rfl
  | cons c rest => simp [startsOutside_cons.mp h]

lemma dropWhile_of_startsOutside (h : StartsOutside p s) : s.dropWhile p = s := by
  cases s with
  | nil => rfl
  | cons c rest => simp [startsOutside_cons.mp h]

lemma takeWhile_run_append (hrun : ∀ c ∈ run, p c = true) (h : StartsOutside p s) :
    (run ++ s).takeWhile p = run := by
  rw [List.takeWhile_append_of_pos hrun, takeWhile_of_startsOutside h, List.append_nil]

lemma dropWhile_run_append (hrun : ∀ c ∈ run, p c = true) (h : StartsOutside p s) :
    (run ++ s).dropWhile p = s := by
  rw [List.dropWhile_append_of_pos hrun, dropWhile_of_startsOutside h]

end Runs

lemma anySuffix_eq_true_iff {p : List Char → Bool} {s : List Char} :
    anySuffix p s = true ↔ ∃ before rest, s = before ++ rest ∧ p rest = true := by
  induction s with
  | nil => simp [anySuffix]
  | cons c others ih =>
    rw [anySuffix, Bool.or_eq_true, ih]
    constructor
    · rintro (h | ⟨before, rest, rfl, h⟩)
      · exact ⟨[], c :: others, rfl, h⟩
      · exact ⟨c :: before, rest, rfl, h⟩
    · rintro ⟨before, rest, heq, h⟩
      cases before with
      | nil => exact .inl (heq ▸ h)
      | cons d before =>
        obtain ⟨rfl, rfl⟩ := List.cons.inj heq
        exact .inr ⟨before, rest, rfl, h⟩

section Kinds

variable {c : Char}

lemma isWord_of_isIdentStart (h : isIdentStart c = true) : isWord c = true := by
  have hascii : c.toNat < 128 := by
    simp only [isIdentStart, Char.isAlpha, Char.isUpper, Char.isLower, Bool.or_eq_true,
      Bool.and_eq_true, decide_eq_true_eq, beq_iff_eq] at h
    rcases h with (⟨-, h⟩ | ⟨-, h⟩) | rfl
    · exact lt_of_le_of_lt (UInt32.le_iff_toNat_le.mp h) (by decide)
    · exact lt_of_le_of_lt (UInt32.le_iff_toNat_le.mp h) (by decide)
    · decide
  have hall : ∀ n < 128, isIdentStart (Char.ofNat n) = true → isWord (Char.ofNat n) = true := by
    decide +kernel
  have := hall c.toNat hascii
  rw [Char.ofNat_toNat] at this
  exact this h

lemma blankRanges_avoid_wordTable :
    (blankRanges.all fun blank => wordTable.all fun word =>
      blank.2 < word.1 || word.2 < blank.1) = true := by
  decide +kernel

lemma not_isWord_of_isBlank (h : isBlank c = true) : isWord c = false := by
  unfold isWord
  split_ifs with hascii
  · have hall : ∀ n < 128, isBlank (Char.ofNat n) = true →
        ((Char.ofNat n).isAlphanum || Char.ofNat n == '_') = false := by decide +kernel
    have := hall c.toNat hascii
    rw [Char.ofNat_toNat] at this
    exact this h
  · by_contra hword
    rw [Bool.not_eq_false, inRanges_iff] at hword
    rw [isBlank, inRanges_iff] at h
    obtain ⟨word, hmem, hlow, hhigh⟩ := hword
    obtain ⟨blank, hmem', hlow', hhigh'⟩ := h
    have hrow := List.all_eq_true.mp blankRanges_avoid_wordTable blank hmem'
    have hapart := List.all_eq_true.mp hrow word hmem
    simp only [Bool.or_eq_true, decide_eq_true_eq] at hapart
    omega

lemma not_isBlank_of_isWord (h : isWord c = true) : isBlank c = false := by
  by_contra hblank
  rw [Bool.not_eq_false] at hblank
  rw [not_isWord_of_isBlank hblank] at h
  cases h

end Kinds

section Trim

variable {s before after core : List Char}

lemma exists_blanks_trimStart (s : List Char) :
    ∃ blanks, s = blanks ++ trimStart s ∧ ∀ c ∈ blanks, isBlank c = true :=
  ⟨s.takeWhile isBlank, List.takeWhile_append_dropWhile.symm, fun _ => List.mem_takeWhile_imp⟩

lemma exists_blanks_trim (s : List Char) : ∃ before after, s = before ++ (trim s ++ after) ∧
    (∀ c ∈ before, isBlank c = true) ∧ ∀ c ∈ after, isBlank c = true := by
  refine ⟨s.takeWhile isBlank, ((trimStart s).reverse.takeWhile isBlank).reverse, ?_,
    fun c => List.mem_takeWhile_imp, fun c hc => List.mem_takeWhile_imp (List.mem_reverse.mp hc)⟩
  have hend : trim s ++ ((trimStart s).reverse.takeWhile isBlank).reverse = trimStart s := by
    rw [trim, trimEnd, ← List.reverse_append, List.takeWhile_append_dropWhile,
      List.reverse_reverse]
  rw [hend]
  exact List.takeWhile_append_dropWhile.symm

lemma trimEnd_append (hcore : ∀ c ∈ core, isBlank c = false)
    (hafter : ∀ c ∈ after, isBlank c = true) : trimEnd (core ++ after) = core := by
  have hreverse : StartsOutside isBlank core.reverse :=
    startsOutside_of_all fun c hc => hcore c (List.mem_reverse.mp hc)
  have hblank : ∀ c ∈ after.reverse, isBlank c = true :=
    fun c hc => hafter c (List.mem_reverse.mp hc)
  rw [trimEnd, List.reverse_append, dropWhile_run_append hblank hreverse, List.reverse_reverse]

lemma trim_append (hbefore : ∀ c ∈ before, isBlank c = true)
    (hcore : ∀ c ∈ core, isBlank c = false) (hafter : ∀ c ∈ after, isBlank c = true) :
    trim (before ++ (core ++ after)) = core := by
  rw [trim, trimStart, List.dropWhile_append_of_pos hbefore]
  cases core with
  | nil =>
    have hnone : after.dropWhile isBlank = [] := List.dropWhile_eq_nil_iff.mpr hafter
    rw [List.nil_append, hnone]
    rfl
  | cons c rest =>
    have hstart : StartsOutside isBlank (c :: rest ++ after) :=
      startsOutside_cons.mpr (hcore c List.mem_cons_self)
    rw [dropWhile_of_startsOutside hstart, trimEnd_append hcore hafter]

end Trim

end Autograder.Proofs
