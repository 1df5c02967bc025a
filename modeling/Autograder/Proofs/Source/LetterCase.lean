import Autograder.Proofs.Source.LineComments
import Autograder.Proofs.Text.Lowercase

/-!
# Texts that differ in the case of letters

Writing the ASCII letters of a text small changes none of its blanks, line ends, quotes and comment
marks, so it does not matter whether this is done before a text is split, trimmed or cut, or after.
The lowercase form of a text does not change at all, and neither does its normal form.
-/

namespace Autograder.Proofs

open Autograder.Text Autograder.Source

/-- The text with its ASCII letters small. -/
def small (s : List Char) : List Char :=
  s.map Char.toLower

/-- The texts differ in the case of ASCII letters at most. -/
def SameLetters (s t : List Char) : Prop :=
  small s = small t

section Characters

variable {c : Char}

lemma toLower_of_not_ascii (h : 128 ≤ c.toNat) : c.toLower = c :=
  toLower_eq_self (by omega)

/-- What a text is split, trimmed, cut and lowercased by is the same for the character and for its
small form, and only a letter has another small form. -/
@[mk_iff] structure IsCaseless (c : Char) : Prop where
  blank : isBlank c.toLower = isBlank c
  word : isWord c.toLower = isWord c
  quote : isQuote c.toLower = isQuote c
  alpha : c.toLower.isAlpha = c.isAlpha
  cased : isCased c.toLower = isCased c
  ignorable : isCaseIgnorable c.toLower = isCaseIgnorable c
  lowered : ∀ isFinal, lowered isFinal c.toLower = lowered isFinal c
  unchanged : c.isAlpha = false → c.toLower = c

lemma isCaseless_ascii : ∀ n < 128, IsCaseless (Char.ofNat n) := by
  simp only [isCaseless_iff]
  decide +kernel

lemma isCaseless (c : Char) : IsCaseless c := by
  by_cases hascii : c.toNat < 128
  · have hchar := isCaseless_ascii c.toNat hascii
    rwa [Char.ofNat_toNat] at hchar
  · have hsame : c.toLower = c := toLower_of_not_ascii (by omega)
    simp [isCaseless_iff, hsame]

lemma isBlank_toLower (c : Char) : isBlank c.toLower = isBlank c :=
  (isCaseless c).blank

lemma isWord_toLower (c : Char) : isWord c.toLower = isWord c :=
  (isCaseless c).word

lemma isQuote_toLower (c : Char) : isQuote c.toLower = isQuote c :=
  (isCaseless c).quote

lemma isCaseIgnorable_toLower (c : Char) : isCaseIgnorable c.toLower = isCaseIgnorable c :=
  (isCaseless c).ignorable

lemma toLower_eq_iff {d : Char} (hd : d.isAlpha = false) : c.toLower = d ↔ c = d := by
  constructor
  · rintro rfl
    exact ((isCaseless c).unchanged ((isCaseless c).alpha.symm.trans hd)).symm
  · rintro rfl
    exact (isCaseless c).unchanged hd

lemma beq_toLower {d : Char} (hd : d.isAlpha = false) : (c.toLower == d) = (c == d) := by
  rw [Bool.eq_iff_iff, beq_iff_eq, beq_iff_eq, toLower_eq_iff hd]

end Characters

section Texts

variable {c : Char} {s t : List Char}

@[simp] lemma small_nil : small [] = [] :=
  rfl

@[simp] lemma small_cons (c : Char) (s : List Char) : small (c :: s) = c.toLower :: small s :=
  rfl

lemma small_reverse (s : List Char) : small s.reverse = (small s).reverse :=
  List.map_reverse

lemma small_eq_nil_iff : small s = [] ↔ s = [] :=
  List.map_eq_nil_iff

lemma isEmpty_small (s : List Char) : (small s).isEmpty = s.isEmpty :=
  List.isEmpty_map

lemma length_small (s : List Char) : (small s).length = s.length :=
  List.length_map _

lemma exists_of_small_eq_cons {d : Char} (hd : d.isAlpha = false) (h : small s = d :: t) :
    ∃ rest, s = d :: rest ∧ small rest = t := by
  obtain ⟨c, rest, rfl, hc, hrest⟩ := List.map_eq_cons_iff.mp h
  exact ⟨rest, by rw [(toLower_eq_iff hd).mp hc], hrest⟩

lemma takeWhile_small {p : Char → Bool} (h : ∀ c, p c.toLower = p c) (s : List Char) :
    (small s).takeWhile p = small (s.takeWhile p) := by
  have hp : p ∘ Char.toLower = p := funext h
  rw [small, List.takeWhile_map, hp]
  rfl

lemma dropWhile_small {p : Char → Bool} (h : ∀ c, p c.toLower = p c) (s : List Char) :
    (small s).dropWhile p = small (s.dropWhile p) := by
  have hp : p ∘ Char.toLower = p := funext h
  rw [small, List.dropWhile_map, hp]
  rfl

lemma trimStart_small (s : List Char) : trimStart (small s) = small (trimStart s) :=
  dropWhile_small isBlank_toLower s

lemma trimEnd_small (s : List Char) : trimEnd (small s) = small (trimEnd s) := by
  rw [trimEnd, ← small_reverse, dropWhile_small isBlank_toLower, ← small_reverse]
  rfl

lemma trim_small (s : List Char) : trim (small s) = small (trim s) := by
  rw [trim, trimStart_small, trimEnd_small]
  rfl

lemma consFirst_small (c : Char) (pieces : List (List Char)) :
    consFirst c.toLower (pieces.map small) = (consFirst c pieces).map small := by
  cases pieces <;> rfl

lemma lines_small (s : List Char) : lines (small s) = (lines s).map small := by
  fun_induction lines s with
  | case1 => rfl
  | case2 rest ih => exact congrArg ([] :: ·) ih
  | case3 rest ih => exact congrArg ([] :: ·) ih
  | case4 c rest hnewline hreturn ih =>
    rw [small_cons, lines, ih, consFirst_small]
    · exact fun hc => hnewline ((toLower_eq_iff rfl).mp hc)
    · intro other hc hother
      obtain ⟨below, rfl, -⟩ := exists_of_small_eq_cons rfl hother
      exact hreturn below ((toLower_eq_iff rfl).mp hc) rfl

lemma anySuffix_small {p : List Char → Bool} (h : ∀ s, p (small s) = p s) (s : List Char) :
    anySuffix p (small s) = anySuffix p s := by
  induction s with
  | nil => rfl
  | cons c s ih =>
    change (p (small (c :: s)) || anySuffix p (small s)) = (p (c :: s) || anySuffix p s)
    rw [h, ih]

end Texts

section Comments

variable {s : List Char}

lemma toLower_of_isQuote {c : Char} (h : isQuote c = true) : c.toLower = c := by
  simp only [isQuote, Bool.or_eq_true, beq_iff_eq] at h
  rcases h with rfl | rfl <;> rfl

/-- Writing letters small makes no pair of marks out of anything else. -/
lemma not_pair_small {c : Char} {rest : List Char} {first second : Char}
    (hfirst : first.isAlpha = false) (hsecond : second.isAlpha = false)
    (h : ∀ below, c = first → rest = second :: below → False) :
    ¬ (c.toLower = first ∧ (small rest).head? = some second) := by
  rintro ⟨hc, hhead⟩
  obtain ⟨other, hother⟩ := List.head?_eq_some_iff.mp hhead
  obtain ⟨below, hbelow, -⟩ := exists_of_small_eq_cons hsecond hother
  exact h below ((toLower_eq_iff hfirst).mp hc) hbelow

lemma stripCommentFrom_small {quote : Option Char} (hquote : ∀ q ∈ quote, isQuote q = true)
    (s : List Char) :
    stripCommentFrom quote (small s) = small (stripCommentFrom quote s) := by
  -- the quote that is open is no letter, so the same characters close it
  fun_induction stripCommentFrom quote s with
  | case1 => rfl
  | case2 => rfl
  | case3 c rest hpair ih =>
    have hstate : (if isQuote c.toLower then some c.toLower else none) =
        if isQuote c then some c else none := by
      by_cases hc : isQuote c = true
      · rw [toLower_of_isQuote hc]
      · simp [isQuote_toLower, hc]
    have hnext : ∀ q ∈ (if isQuote c then some c else none), isQuote q = true := by
      intro q hq
      obtain ⟨hc, hsome⟩ := Option.ite_none_right_eq_some.mp hq
      exact Option.some.inj hsome ▸ hc
    rw [small_cons, stripCommentFrom_cons (not_pair_small rfl rfl hpair), hstate, ih hnext]
    rfl
  | case4 q c rest ih =>
    have hq : q.isAlpha = false := by
      have hquoted := hquote q rfl
      simp only [isQuote, Bool.or_eq_true, beq_iff_eq] at hquoted
      rcases hquoted with rfl | rfl <;> rfl
    have hnext : ∀ r ∈ (if c == q then none else some q), isQuote r = true := by
      intro r hr
      obtain ⟨-, hsome⟩ := Option.ite_none_left_eq_some.mp hr
      exact hquote r hsome
    rw [small_cons, stripCommentFrom, beq_toLower hq, ih hnext]
    rfl

lemma stripLineComment_small (s : List Char) :
    stripLineComment (small s) = small (stripLineComment s) :=
  stripCommentFrom_small (fun _ hq => absurd hq (Option.not_mem_none _)) s

lemma dropLineCommentsFrom_small (inside : Bool) (s : List Char) :
    dropLineCommentsFrom inside (small s) = small (dropLineCommentsFrom inside s) := by
  fun_induction dropLineCommentsFrom inside s with
  | case1 => rfl
  | case2 c rest hc ih =>
    rw [small_cons, dropLineCommentsFrom, beq_toLower rfl, if_pos hc, ih]
    rfl
  | case3 c rest hc ih => rw [small_cons, dropLineCommentsFrom, beq_toLower rfl, if_neg hc, ih]
  | case4 rest ih => exact ih
  | case5 c rest hpair ih =>
    rw [small_cons, dropLineCommentsFrom_cons (not_pair_small rfl rfl hpair), ih]
    rfl

lemma isPrefixOf_small {needle : List Char} (h : ∀ c ∈ needle, c.isAlpha = false) (s : List Char) :
    needle.isPrefixOf (small s) = needle.isPrefixOf s := by
  induction needle generalizing s with
  | nil => cases s <;> rfl
  | cons d needle ih =>
    obtain ⟨hd, hneedle⟩ := List.forall_mem_cons.mp h
    cases s with
    | nil => rfl
    | cons c s =>
      have hchar : (d == c.toLower) = (d == c) := by
        rw [Bool.eq_iff_iff, beq_iff_eq, beq_iff_eq, eq_comm, toLower_eq_iff hd, eq_comm]
      rw [small_cons, List.isPrefixOf, List.isPrefixOf, ih hneedle, hchar]

lemma occurs_small {needle : List Char} (h : ∀ c ∈ needle, c.isAlpha = false) (s : List Char) :
    occurs needle (small s) = occurs needle s :=
  anySuffix_small (isPrefixOf_small h) s

lemma dropBlockCommentsFrom_small (inside : Bool) (s : List Char) :
    dropBlockCommentsFrom inside (small s) = small (dropBlockCommentsFrom inside s) := by
  have hclose : ∀ c ∈ ['*', '/'], c.isAlpha = false :=
    List.forall_mem_cons.mpr ⟨rfl, List.forall_mem_singleton.mpr rfl⟩
  fun_induction dropBlockCommentsFrom inside s with
  | case1 => rfl
  | case2 rest ih => exact ih
  | case3 c rest hpair ih =>
    rw [small_cons, dropBlockCommentsFrom, ih]
    rintro below hc hbelow
    exact not_pair_small rfl rfl hpair ⟨hc, by rw [hbelow]; rfl⟩
  | case4 rest hoccurs ih =>
    change dropBlockCommentsFrom false ('/' :: '*' :: small rest) = _
    rw [dropBlockCommentsFrom, occurs_small hclose, if_pos hoccurs, ih]
  | case5 rest hoccurs =>
    change dropBlockCommentsFrom false ('/' :: '*' :: small rest) = _
    rw [dropBlockCommentsFrom, occurs_small hclose, if_neg hoccurs]
    rfl
  | case6 c rest hpair ih =>
    rw [small_cons, dropBlockCommentsFrom_cons (not_pair_small rfl rfl hpair), ih]
    rfl

end Comments

section Normal

variable {s t : List Char}

lemma collapseBlanks_small (s : List Char) :
    collapseBlanks (small s) = small (collapseBlanks s) := by
  fun_induction collapseBlanks s with
  | case1 => rfl
  | case2 c hc => simp [collapseBlanks, isBlank_toLower, hc]
  | case3 c hc d others hd ih => simpa [collapseBlanks, isBlank_toLower, hc, hd] using ih
  | case4 c hc d others hd ih => simpa [collapseBlanks, isBlank_toLower, hc, hd] using ih
  | case5 c rest hc ih => simpa [collapseBlanks, isBlank_toLower, hc] using ih

lemma startsCased_small (s : List Char) : startsCased (small s) = startsCased s := by
  unfold startsCased
  rw [dropWhile_small isCaseIgnorable_toLower]
  cases s.dropWhile isCaseIgnorable with
  | nil => rfl
  | cons c rest => exact (isCaseless c).cased

lemma lowercaseAfter_small (before s : List Char) :
    lowercaseAfter (small before) (small s) = lowercaseAfter before s := by
  induction s generalizing before with
  | nil => rfl
  | cons c s ih =>
    rw [small_cons, lowercaseAfter_cons, lowercaseAfter_cons, startsCased_small, startsCased_small,
      (isCaseless c).lowered, ← small_cons, ih]

theorem lowercase_small (s : List Char) : lowercase (small s) = lowercase s :=
  lowercaseAfter_small [] s

theorem normalize_small (s : List Char) : normalize (small s) = normalize s := by
  simp only [Source.normalize, dropLineComments, dropBlockComments, dropLineCommentsFrom_small,
    dropBlockCommentsFrom_small, collapseBlanks_small, trim_small, lowercase_small]

lemma normalize_eq_of_sameLetters (h : SameLetters s t) : normalize s = normalize t := by
  rw [← normalize_small s, ← normalize_small t, h]

end Normal

end Autograder.Proofs
