import Autograder.Proofs.Text.Scanning
import Autograder.Source.Normal

/-!
# Removing comments

The two passes over a text leave no comment behind. Deleting a block comment brings the characters
on either side of it together; since line comments are gone by then, no slash stands next to a block
comment, and nothing that is brought together starts or ends another one.
-/

namespace Autograder.Proofs

open Autograder.Text Autograder.Source

/-- A `//` stands somewhere in the text. -/
def HasLineComment (s : List Char) : Prop :=
  ['/', '/'] <:+: s

/-- A `/*` stands somewhere in the text, with a `*/` behind it. -/
def HasBlockComment (s : List Char) : Prop :=
  ∃ before rest, s = before ++ '/' :: '*' :: rest ∧ ['*', '/'] <:+: rest

section Markers

variable {c : Char} {s : List Char}

lemma occurs_eq_true_iff {needle : List Char} : occurs needle s = true ↔ needle <:+: s := by
  rw [occurs, anySuffix_eq_true_iff]
  constructor
  · rintro ⟨before, rest, rfl, hprefix⟩
    obtain ⟨after, rfl⟩ := List.isPrefixOf_iff_prefix.mp hprefix
    exact ⟨before, after, by simp⟩
  · rintro ⟨before, after, rfl⟩
    exact ⟨before, needle ++ after, by simp,
      List.isPrefixOf_iff_prefix.mpr (List.prefix_append needle after)⟩

lemma hasLineComment_cons :
    HasLineComment (c :: s) ↔ (c = '/' ∧ s.head? = some '/') ∨ HasLineComment s := by
  rw [HasLineComment, List.infix_cons_iff]
  refine or_congr ?_ Iff.rfl
  cases s <;> simp [eq_comm]

lemma hasBlockComment_cons : HasBlockComment (c :: s) ↔
    (c = '/' ∧ ∃ rest, s = '*' :: rest ∧ ['*', '/'] <:+: rest) ∨ HasBlockComment s := by
  constructor
  · rintro ⟨before, rest, heq, hclose⟩
    cases before with
    | nil =>
      obtain ⟨rfl, rfl⟩ := List.cons.inj heq
      exact .inl ⟨rfl, rest, rfl, hclose⟩
    | cons d before =>
      obtain ⟨rfl, rfl⟩ := List.cons.inj heq
      exact .inr ⟨before, rest, rfl, hclose⟩
  · rintro (⟨rfl, rest, rfl, hclose⟩ | ⟨before, rest, rfl, hclose⟩)
    · exact ⟨[], rest, rfl, hclose⟩
    · exact ⟨c :: before, rest, rfl, hclose⟩

/-- A block comment behind an opening needs a close behind that opening. -/
lemma infix_of_hasBlockComment (h : HasBlockComment ('/' :: '*' :: s)) : ['*', '/'] <:+: s := by
  rcases hasBlockComment_cons.mp h with ⟨-, rest, heq, hclose⟩ | h
  · obtain ⟨-, rfl⟩ := List.cons.inj heq
    exact hclose
  · rcases hasBlockComment_cons.mp h with ⟨hslash, -⟩ | ⟨before, rest, rfl, hclose⟩
    · exact absurd hslash (by decide)
    · exact hclose.trans ⟨before ++ ['/', '*'], [], by simp⟩

end Markers

section LineComments

variable {s : List Char}

lemma dropLineCommentsFrom_cons {c : Char} (h : ¬ (c = '/' ∧ s.head? = some '/')) :
    dropLineCommentsFrom false (c :: s) = c :: dropLineCommentsFrom false s := by
  rw [dropLineCommentsFrom]
  rintro rest rfl rfl
  exact h ⟨rfl, rfl⟩

lemma head?_dropLineCommentsFrom (h : s.head? ≠ some '/') :
    (dropLineCommentsFrom false s).head? = s.head? := by
  cases s with
  | nil => rfl
  | cons c rest =>
    rw [dropLineCommentsFrom_cons fun hc => h (congrArg some hc.1)]
    rfl

lemma not_hasLineComment_dropLineCommentsFrom (inside : Bool) (s : List Char) :
    ¬ HasLineComment (dropLineCommentsFrom inside s) := by
  fun_induction dropLineCommentsFrom inside s with
  | case1 => simp [HasLineComment]
  | case2 c rest hc ih => simpa [hasLineComment_cons, beq_iff_eq.mp hc] using ih
  | case3 c rest hc ih => exact ih
  | case4 rest ih => exact ih
  | case5 c rest hpair ih =>
    rw [hasLineComment_cons, not_or]
    refine ⟨?_, ih⟩
    rintro ⟨rfl, hhead⟩
    have hrest : rest.head? ≠ some '/' := by
      intro heq
      obtain ⟨others, rfl⟩ := List.head?_eq_some_iff.mp heq
      exact hpair others rfl rfl
    rw [head?_dropLineCommentsFrom hrest] at hhead
    exact hrest hhead

theorem not_hasLineComment_dropLineComments (s : List Char) :
    ¬ HasLineComment (dropLineComments s) :=
  not_hasLineComment_dropLineCommentsFrom false s

theorem dropLineComments_eq_self (h : ¬ HasLineComment s) : dropLineComments s = s := by
  rw [dropLineComments]
  induction s with
  | nil => rfl
  | cons c rest ih =>
    rw [hasLineComment_cons, not_or] at h
    rw [dropLineCommentsFrom_cons h.1, ih h.2]

end LineComments

section BlockComments

variable {s : List Char}

lemma dropBlockCommentsFrom_cons {c : Char} (h : ¬ (c = '/' ∧ s.head? = some '*')) :
    dropBlockCommentsFrom false (c :: s) = c :: dropBlockCommentsFrom false s := by
  rw [dropBlockCommentsFrom]
  rintro rest rfl rfl
  exact h ⟨rfl, rfl⟩

lemma head?_dropBlockCommentsFrom (h : s.head? ≠ some '/') :
    (dropBlockCommentsFrom false s).head? = s.head? := by
  cases s with
  | nil => rfl
  | cons c rest =>
    rw [dropBlockCommentsFrom_cons fun hc => h (congrArg some hc.1)]
    rfl

/-- Where no line comment stands, deleting block comments brings no two slashes together, and no
opening before a close. -/
lemma not_comments_dropBlockCommentsFrom (inside : Bool) (h : ¬ HasLineComment s) :
    ¬ HasLineComment (dropBlockCommentsFrom inside s) ∧
      ¬ HasBlockComment (dropBlockCommentsFrom inside s) := by
  fun_induction dropBlockCommentsFrom inside s with
  | case1 => exact ⟨h, fun ⟨before, rest, heq, _⟩ => by simp at heq⟩
  | case2 rest ih =>
    simp only [hasLineComment_cons, not_or] at h
    exact ih h.2.2
  | case3 c rest hclose ih =>
    rw [hasLineComment_cons, not_or] at h
    exact ih h.2
  | case4 rest hclose ih =>
    simp only [hasLineComment_cons, not_or] at h
    exact ih h.2.2
  | case5 rest hclose =>
    refine ⟨h, fun hblock => hclose ?_⟩
    exact occurs_eq_true_iff.mpr (infix_of_hasBlockComment hblock)
  | case6 c rest hopen ih =>
    rw [hasLineComment_cons, not_or] at h
    obtain ⟨hline, hblock⟩ := ih h.2
    -- behind a slash the next character stays, since it is not another slash
    have hhead : c = '/' → (dropBlockCommentsFrom false rest).head? = rest.head? :=
      fun hc => head?_dropBlockCommentsFrom fun hslash => h.1 ⟨hc, hslash⟩
    constructor
    · rw [hasLineComment_cons, not_or]
      exact ⟨fun ⟨hc, hslash⟩ => h.1 ⟨hc, hhead hc ▸ hslash⟩, hline⟩
    · rw [hasBlockComment_cons, not_or]
      refine ⟨?_, hblock⟩
      rintro ⟨rfl, others, hothers, -⟩
      have hstar : rest.head? = some '*' := by rw [← hhead rfl, hothers, List.head?_cons]
      obtain ⟨others, rfl⟩ := List.head?_eq_some_iff.mp hstar
      exact hopen others rfl rfl

theorem dropBlockComments_eq_self (h : ¬ HasBlockComment s) : dropBlockComments s = s := by
  rw [dropBlockComments]
  induction s with
  | nil => rfl
  | cons c rest ih =>
    have hrest := ih fun hblock => h (hasBlockComment_cons.mpr (.inr hblock))
    by_cases hopen : c = '/' ∧ rest.head? = some '*'
    · obtain ⟨rfl, hstar⟩ := hopen
      obtain ⟨others, rfl⟩ := List.head?_eq_some_iff.mp hstar
      have hclose : ¬ occurs ['*', '/'] others = true := fun hclose =>
        h (hasBlockComment_cons.mpr (.inl ⟨rfl, others, rfl, occurs_eq_true_iff.mp hclose⟩))
      rw [dropBlockCommentsFrom, if_neg hclose]
    · rw [dropBlockCommentsFrom_cons hopen, hrest]

end BlockComments

end Autograder.Proofs
