import Autograder.Proofs.Source.Comments
import Autograder.Proofs.Text.Relaid

/-!
# Normal forms do not depend on layout

Line comments end where the line does, and block comments hide line breaks. So removing comments
turns layouts of one text into layouts of one text, and these are collapsed to the same normal
form.
-/

namespace Autograder.Proofs

open Autograder.Text Autograder.Source

section LineComments

variable {inside : Bool} {c : Char} {s t u : List Char}

lemma mem_of_mem_dropLineCommentsFrom (h : c ∈ dropLineCommentsFrom inside s) : c ∈ s := by
  fun_induction dropLineCommentsFrom inside s with
  | case1 => exact h
  | case2 d rest hd ih | case5 d rest hpair ih =>
    rcases List.mem_cons.mp h with rfl | h
    · exact List.mem_cons_self
    · exact List.mem_cons_of_mem _ (ih h)
  | case3 d rest hd ih => exact List.mem_cons_of_mem _ (ih h)
  | case4 rest ih => exact List.mem_cons_of_mem _ (List.mem_cons_of_mem _ (ih h))

lemma dropLineCommentsFrom_blanks_append (hu : ∀ c ∈ u, isBlank c = true) (s : List Char) :
    dropLineCommentsFrom false (u ++ s) = u ++ dropLineCommentsFrom false s := by
  induction u with
  | nil => rfl
  | cons c rest ih =>
    obtain ⟨hc, hrest⟩ := List.forall_mem_cons.mp hu
    have hslash : c ≠ '/' := ne_of_isBlank hc (by decide)
    rw [List.cons_append, dropLineCommentsFrom_cons fun h => hslash h.1, ih hrest]
    rfl

lemma exists_lineBreak_dropLineCommentsFrom (hu : IsLineBreak u) (inside : Bool) (s : List Char) :
    ∃ v, IsLineBreak v ∧
      dropLineCommentsFrom inside (u ++ s) = v ++ dropLineCommentsFrom false s := by
  cases inside with
  | false => exact ⟨u, hu, dropLineCommentsFrom_blanks_append hu.blank s⟩
  | true =>
    obtain ⟨hblank, hnewline⟩ := hu
    induction u with
    | nil => cases hnewline
    | cons c rest ih =>
      obtain ⟨hc, hrest⟩ := List.forall_mem_cons.mp hblank
      by_cases hend : c = '\n'
      · refine ⟨c :: rest, ⟨hblank, hnewline⟩, ?_⟩
        rw [hend, List.cons_append, dropLineCommentsFrom, if_pos (beq_self_eq_true _),
          dropLineCommentsFrom_blanks_append hrest]
        rfl
      · rw [List.cons_append, dropLineCommentsFrom, if_neg (by simpa using hend)]
        exact ih hrest (List.mem_of_ne_of_mem (Ne.symm hend) hnewline)

lemma relaid_dropLineCommentsFrom (h : Relaid s t) (inside : Bool) :
    Relaid (dropLineCommentsFrom inside s) (dropLineCommentsFrom inside t) := by
  induction h generalizing inside with
  | stop hs ht =>
    exact .stop (fun c hc => hs c (mem_of_mem_dropLineCommentsFrom hc))
      fun c hc => ht c (mem_of_mem_dropLineCommentsFrom hc)
  | @char c s t rest ih =>
    cases inside with
    | true =>
      rw [dropLineCommentsFrom, dropLineCommentsFrom]
      split_ifs
      · exact .char c (ih false)
      · exact ih true
    | false =>
      by_cases hopen : c = '/' ∧ s.head? = some '/'
      · obtain ⟨rfl, hslash⟩ := hopen
        obtain ⟨others, rfl⟩ := List.head?_eq_some_iff.mp hslash
        obtain ⟨others', rfl, -⟩ := exists_of_relaid_cons (by decide) rest
        -- inside a comment its second slash means nothing
        exact ih true
      · have hopen' : ¬ (c = '/' ∧ t.head? = some '/') := by
          rwa [← head?_eq_of_relaid (by decide) rest]
        rw [dropLineCommentsFrom_cons hopen, dropLineCommentsFrom_cons hopen']
        exact .char c (ih false)
  | @lineBreak u v s t hu hv _ ih =>
    obtain ⟨u', hu', hs⟩ := exists_lineBreak_dropLineCommentsFrom hu inside s
    obtain ⟨v', hv', ht⟩ := exists_lineBreak_dropLineCommentsFrom hv inside t
    rw [hs, ht]
    exact .lineBreak hu' hv' (ih false)

end LineComments

section BlockComments

variable {inside : Bool} {c : Char} {s t u : List Char}

lemma mem_of_mem_dropBlockCommentsFrom (h : c ∈ dropBlockCommentsFrom inside s) : c ∈ s := by
  fun_induction dropBlockCommentsFrom inside s with
  | case1 | case5 => exact h
  | case2 rest ih | case4 rest _ ih =>
    exact List.mem_cons_of_mem _ (List.mem_cons_of_mem _ (ih h))
  | case3 d rest hclose ih => exact List.mem_cons_of_mem _ (ih h)
  | case6 d rest hopen ih =>
    rcases List.mem_cons.mp h with rfl | h
    · exact List.mem_cons_self
    · exact List.mem_cons_of_mem _ (ih h)

lemma dropBlockCommentsFrom_true_cons (h : ¬ (c = '*' ∧ s.head? = some '/')) :
    dropBlockCommentsFrom true (c :: s) = dropBlockCommentsFrom true s := by
  rw [dropBlockCommentsFrom]
  rintro rest rfl rfl
  exact h ⟨rfl, rfl⟩

lemma dropBlockCommentsFrom_blanks_append (hu : ∀ c ∈ u, isBlank c = true) (s : List Char) :
    dropBlockCommentsFrom false (u ++ s) = u ++ dropBlockCommentsFrom false s ∧
      dropBlockCommentsFrom true (u ++ s) = dropBlockCommentsFrom true s := by
  induction u with
  | nil => exact ⟨rfl, rfl⟩
  | cons c rest ih =>
    obtain ⟨hc, hrest⟩ := List.forall_mem_cons.mp hu
    obtain ⟨hfalse, htrue⟩ := ih hrest
    have hslash : c ≠ '/' := ne_of_isBlank hc (by decide)
    have hstar : c ≠ '*' := ne_of_isBlank hc (by decide)
    rw [List.cons_append, dropBlockCommentsFrom_cons fun h => hslash h.1, hfalse,
      dropBlockCommentsFrom_true_cons fun h => hstar h.1, htrue]
    exact ⟨rfl, rfl⟩

lemma relaid_dropBlockCommentsFrom (h : Relaid s t) (inside : Bool) :
    Relaid (dropBlockCommentsFrom inside s) (dropBlockCommentsFrom inside t) := by
  -- markers are pairs, so a step may go two characters ahead: the induction is on the length
  induction hlength : s.length using Nat.strong_induction_on generalizing s t inside with
  | h n ih =>
    cases h with
    | stop hs ht =>
      exact .stop (fun c hc => hs c (mem_of_mem_dropBlockCommentsFrom hc))
        fun c hc => ht c (mem_of_mem_dropBlockCommentsFrom hc)
    | @lineBreak u v s t hu hv rest =>
      have hshort : s.length < n := by
        have := List.length_pos_of_mem hu.newline
        simp only [List.length_append] at hlength
        omega
      obtain ⟨hsfalse, hstrue⟩ := dropBlockCommentsFrom_blanks_append hu.blank s
      obtain ⟨htfalse, httrue⟩ := dropBlockCommentsFrom_blanks_append hv.blank t
      cases inside with
      | true =>
        rw [hstrue, httrue]
        exact ih _ hshort rest true rfl
      | false =>
        rw [hsfalse, htfalse]
        exact .lineBreak hu hv (ih _ hshort rest false rfl)
    | @char c s t rest =>
      simp only [List.length_cons] at hlength
      cases inside with
      | true =>
        by_cases hclose : c = '*' ∧ s.head? = some '/'
        · obtain ⟨rfl, hslash⟩ := hclose
          obtain ⟨others, rfl⟩ := List.head?_eq_some_iff.mp hslash
          obtain ⟨others', rfl, hothers⟩ := exists_of_relaid_cons (by decide) rest
          rw [dropBlockCommentsFrom, dropBlockCommentsFrom]
          exact ih _ (by simp at hlength; omega) hothers false rfl
        · have hclose' : ¬ (c = '*' ∧ t.head? = some '/') := by
            rwa [← head?_eq_of_relaid (by decide) rest]
          rw [dropBlockCommentsFrom_true_cons hclose, dropBlockCommentsFrom_true_cons hclose']
          exact ih _ (by omega) rest true rfl
      | false =>
        by_cases hopen : c = '/' ∧ s.head? = some '*'
        · obtain ⟨rfl, hstar⟩ := hopen
          obtain ⟨others, rfl⟩ := List.head?_eq_some_iff.mp hstar
          obtain ⟨others', rfl, hothers⟩ := exists_of_relaid_cons (by decide) rest
          -- an opening without a close stays in both layouts
          have hoccurs : occurs ['*', '/'] others = occurs ['*', '/'] others' :=
            occurs_of_relaid (by simp) (by simp; decide) hothers
          rw [dropBlockCommentsFrom, dropBlockCommentsFrom, hoccurs]
          split_ifs
          · exact ih _ (by simp at hlength; omega) hothers true rfl
          · exact relaid_append ['/', '*'] hothers
        · have hopen' : ¬ (c = '/' ∧ t.head? = some '*') := by
            rwa [← head?_eq_of_relaid (by decide) rest]
          rw [dropBlockCommentsFrom_cons hopen, dropBlockCommentsFrom_cons hopen']
          exact .char c (ih _ (by omega) rest false rfl)

end BlockComments

/-- What is left of a text without comments, but for blanks at its start, does not depend on blanks
at the start of the text. -/
lemma trimStart_dropComments (s : List Char) :
    trimStart (dropBlockComments (dropLineComments s)) =
      trimStart (dropBlockComments (dropLineComments (trimStart s))) := by
  obtain ⟨blanks, hsplit, hblanks⟩ := exists_blanks_trimStart s
  conv_lhs => rw [hsplit, dropLineComments, dropLineCommentsFrom_blanks_append hblanks,
    dropBlockComments, (dropBlockCommentsFrom_blanks_append hblanks _).1,
    trimStart_blanks_append hblanks]
  rfl

theorem normalize_eq_of_sameLines {s t : List Char} (h : SameLines s t) :
    Source.normalize s = Source.normalize t := by
  have hrelaid : Relaid (dropBlockComments (dropLineComments (trimStart s)))
      (dropBlockComments (dropLineComments (trimStart t))) :=
    relaid_dropBlockCommentsFrom (relaid_dropLineCommentsFrom (relaid_of_sameLines h) false) false
  rw [Source.normalize, Source.normalize, trim_collapseBlanks, trim_collapseBlanks,
    trimStart_dropComments s, trimStart_dropComments t,
    (trimEnd_collapseBlanks_of_relaid hrelaid).2]

end Autograder.Proofs
