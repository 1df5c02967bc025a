import Autograder.Proofs.Text.Lowercase
import Autograder.Proofs.Text.Spacing

/-!
# Marks that a rewriting keeps

Collapsing and lowercasing rewrite stretches of a text and leave some characters, its marks, where
they are: no mark comes in or gets lost, and no two marks become neighbours. So what is said of
neighbouring marks in the result holds in the text before.
-/

namespace Autograder.Proofs

open Autograder.Text

/-- The second text is the first one with stretches between marks rewritten, none of them to
nothing. -/
inductive KeepsMarks (isMark : Char → Bool) : List Char → List Char → Prop where
  | nil : KeepsMarks isMark [] []
  | mark {c : Char} {s t : List Char} (h : isMark c = true) (rest : KeepsMarks isMark s t) :
      KeepsMarks isMark (c :: s) (c :: t)
  | stretch (before after : List Char) {s t : List Char} (hbefore : before ≠ [])
      (hafter : after ≠ []) (unmarked : ∀ c ∈ before, isMark c = false)
      (unmarked' : ∀ c ∈ after, isMark c = false) (rest : KeepsMarks isMark s t) :
      KeepsMarks isMark (before ++ s) (after ++ t)

section Marks

variable {isMark : Char → Bool} {c : Char} {s t u before after : List Char}

lemma exists_of_keepsMarks_cons (h : KeepsMarks isMark s u) (hu : u = c :: t)
    (hc : isMark c = true) : ∃ rest, s = c :: rest ∧ KeepsMarks isMark rest t := by
  cases h with
  | nil => cases hu
  | mark _ rest =>
    obtain ⟨rfl, rfl⟩ := List.cons.inj hu
    exact ⟨_, rfl, rest⟩
  | @stretch before after _ _ _ hafter _ unmarked' _ =>
    cases after with
    | nil => exact absurd rfl hafter
    | cons d others =>
      obtain ⟨rfl, -⟩ := List.cons.inj hu
      rw [unmarked' d List.mem_cons_self] at hc
      cases hc

lemma exists_of_keepsMarks_append (h : KeepsMarks isMark s u) (hu : u = before ++ c :: t)
    (hc : isMark c = true) :
    ∃ before' rest, s = before' ++ c :: rest ∧ KeepsMarks isMark rest t := by
  induction h generalizing before with
  | nil => simp at hu
  | @mark d s t hd rest ih =>
    cases before with
    | nil =>
      obtain ⟨rfl, rfl⟩ := List.cons.inj hu
      exact ⟨[], s, rfl, rest⟩
    | cons e before =>
      obtain ⟨rfl, htail⟩ := List.cons.inj hu
      obtain ⟨before', rest', rfl, hkeeps⟩ := ih htail
      exact ⟨d :: before', rest', rfl, hkeeps⟩
  | @stretch old new s t _ _ _ unmarked' rest ih =>
    obtain ⟨others, hsplit, htail⟩ | ⟨others, hsplit, htail⟩ := List.append_eq_append_iff.mp hu
    · obtain ⟨before', rest', rfl, hkeeps⟩ := ih htail
      exact ⟨old ++ before', rest', by simp, hkeeps⟩
    · -- a mark does not start inside the new stretch, so it starts what follows
      cases others with
      | nil =>
        obtain ⟨before', rest', rfl, hkeeps⟩ := ih (htail.symm.trans (List.nil_append _).symm)
        exact ⟨old ++ before', rest', by simp, hkeeps⟩
      | cons d others =>
        obtain ⟨rfl, -⟩ := List.cons.inj htail
        have hmem : c ∈ new := hsplit ▸ List.mem_append_right _ List.mem_cons_self
        rw [unmarked' c hmem] at hc
        cases hc

lemma eq_nil_of_keepsMarks_nil (h : KeepsMarks isMark s t) (ht : t = []) : s = [] := by
  cases h with
  | nil => rfl
  | mark => cases ht
  | stretch _ _ _ hafter => exact absurd (List.append_eq_nil_iff.mp ht).1 hafter

lemma pair_infix_of_keepsMarks {d : Char} (h : KeepsMarks isMark s t) (hc : isMark c = true)
    (hd : isMark d = true) (hpair : [c, d] <:+: t) : [c, d] <:+: s := by
  obtain ⟨before, after, rfl⟩ := hpair
  obtain ⟨before', rest, rfl, hrest⟩ :=
    exists_of_keepsMarks_append h (List.append_assoc before [c, d] after) hc
  obtain ⟨rest', rfl, -⟩ := exists_of_keepsMarks_cons hrest rfl hd
  exact ⟨before', rest', by simp⟩

lemma keepsMarks_cons_of_cons {d : Char} (hc : isMark c = false) (hd : isMark d = false)
    (h : KeepsMarks isMark (d :: s) t) : KeepsMarks isMark (c :: d :: s) t := by
  generalize hs : d :: s = u at h
  cases h with
  | nil => cases hs
  | mark hmark _ =>
    obtain ⟨rfl, -⟩ := List.cons.inj hs
    rw [hd] at hmark
    cases hmark
  | @stretch old new s t hbefore hafter unmarked unmarked' rest =>
    exact .stretch (c :: old) _ (List.cons_ne_nil _ _) hafter
      (List.forall_mem_cons.mpr ⟨hc, unmarked⟩) unmarked' rest

end Marks

lemma keepsMarks_collapseBlanks (s : List Char) :
    KeepsMarks (fun c => !isBlank c) s (collapseBlanks s) := by
  fun_induction collapseBlanks s with
  | case1 => exact .nil
  | case2 c hc =>
    exact .stretch [c] [' '] (by simp) (by simp) (by simpa using hc)
      (by simp; decide) .nil
  | case3 c hc d others hd ih =>
    exact keepsMarks_cons_of_cons (by simpa using hc) (by simpa using hd) ih
  | case4 c hc d others hd ih =>
    exact .stretch [c] [' '] (by simp) (by simp) (by simpa using hc)
      (by simp; decide) ih
  | case5 c rest hc ih => exact .mark (by simpa using hc) ih

lemma lowercaseChar_ne_nil (c : Char) : lowercaseChar c ≠ [] := by
  unfold lowercaseChar
  split_ifs
  · simp
  · simp
  · split <;> simp

lemma lowered_ne_nil (isFinal : Bool) (c : Char) : lowered isFinal c ≠ [] := by
  unfold lowered
  split_ifs
  · simp
  · simp
  · exact lowercaseChar_ne_nil c

lemma keepsMarks_lowercaseAfter {isMark : Char → Bool}
    (hmark : ∀ c, isMark c = true → isPlain c.toNat = true ∧ IsLower c) (before s : List Char) :
    KeepsMarks isMark s (lowercaseAfter before s) := by
  induction s generalizing before with
  | nil => exact .nil
  | cons c rest ih =>
    rw [lowercaseAfter_cons]
    by_cases hc : isMark c = true
    · obtain ⟨-, hsigma, hself⟩ := hmark c hc
      simp only [lowered, beq_eq_false_iff_ne.mpr hsigma, Bool.false_eq_true, if_false, hself]
      exact .mark hc (ih _)
    · rw [Bool.not_eq_true] at hc
      refine .stretch [c] _ (List.cons_ne_nil _ _) (lowered_ne_nil _ c) (by simpa using hc)
        (fun x hx => ?_) (ih _)
      by_contra hmarked
      rw [Bool.not_eq_false] at hmarked
      obtain rfl := eq_of_mem_lowered hx (hmark x hmarked).1
      rw [hc] at hmarked
      cases hmarked

end Autograder.Proofs
