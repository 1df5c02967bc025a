import Autograder.Proofs.Text.SameLines

/-!
# Layout

A text is laid out anew if other blanks stand at its line breaks and at its end. Two texts with the
same visible lines are, but for blanks at their start, such layouts of each other. What is looked
for in a text and neither starts nor goes on with a blank is found in all of its layouts.
-/

namespace Autograder.Proofs

open Autograder.Text

/-- Blanks with a newline among them. -/
structure IsLineBreak (s : List Char) : Prop where
  blank : ∀ c ∈ s, isBlank c = true
  newline : '\n' ∈ s

/-- The second text is the first one with other line breaks and other blanks at the end. -/
inductive Relaid : List Char → List Char → Prop where
  | stop {s t : List Char} (hs : ∀ c ∈ s, isBlank c = true) (ht : ∀ c ∈ t, isBlank c = true) :
      Relaid s t
  | char (c : Char) {s t : List Char} (rest : Relaid s t) : Relaid (c :: s) (c :: t)
  | lineBreak {u v s t : List Char} (hu : IsLineBreak u) (hv : IsLineBreak v)
      (rest : Relaid s t) : Relaid (u ++ s) (v ++ t)

section Relaid

variable {c : Char} {s t word : List Char}

lemma relaid_symm (h : Relaid s t) : Relaid t s := by
  induction h with
  | stop hs ht => exact .stop ht hs
  | char c _ ih => exact .char c ih
  | lineBreak hu hv _ ih => exact .lineBreak hv hu ih

lemma relaid_append (word : List Char) (h : Relaid s t) : Relaid (word ++ s) (word ++ t) := by
  induction word with
  | nil => exact h
  | cons c rest ih => exact .char c ih

lemma exists_of_relaid_cons (hc : isBlank c = false) (h : Relaid (c :: s) t) :
    ∃ rest, t = c :: rest ∧ Relaid s rest := by
  generalize heq : c :: s = u at h
  cases h with
  | stop hs _ =>
    rw [hs c (heq ▸ List.mem_cons_self)] at hc
    cases hc
  | char _ rest =>
    obtain ⟨rfl, rfl⟩ := List.cons.inj heq
    exact ⟨_, rfl, rest⟩
  | @lineBreak u _ _ _ hu _ _ =>
    cases u with
    | nil => cases hu.newline
    | cons d others =>
      obtain ⟨rfl, -⟩ := List.cons.inj heq
      rw [hu.blank c List.mem_cons_self] at hc
      cases hc

lemma head?_eq_of_relaid (hc : isBlank c = false) (h : Relaid s t) :
    s.head? = some c ↔ t.head? = some c := by
  have hforward {s t : List Char} (h : Relaid s t) (hs : s.head? = some c) : t.head? = some c := by
    obtain ⟨rest, rfl⟩ := List.head?_eq_some_iff.mp hs
    obtain ⟨rest', rfl, -⟩ := exists_of_relaid_cons hc h
    rfl
  exact ⟨hforward h, hforward (relaid_symm h)⟩

lemma exists_of_relaid_append (hword : ∀ c ∈ word, isBlank c = false) (h : Relaid (word ++ s) t) :
    ∃ rest, t = word ++ rest ∧ Relaid s rest := by
  induction word generalizing t with
  | nil => exact ⟨t, rfl, h⟩
  | cons c others ih =>
    obtain ⟨hc, hothers⟩ := List.forall_mem_cons.mp hword
    obtain ⟨rest, rfl, hrest⟩ := exists_of_relaid_cons hc h
    obtain ⟨rest', rfl, hrest'⟩ := ih hothers hrest
    exact ⟨rest', rfl, hrest'⟩

lemma relaid_trimStart (h : Relaid s t) : Relaid (trimStart s) (trimStart t) := by
  induction h with
  | stop hs ht =>
    rw [trimStart_of_blanks hs, trimStart_of_blanks ht]
    exact .stop (by simp) (by simp)
  | char c rest ih =>
    by_cases hc : isBlank c = true
    · rwa [trimStart_cons_of_isBlank hc, trimStart_cons_of_isBlank hc]
    · rw [Bool.not_eq_true] at hc
      rw [trimStart_cons_of_not_isBlank hc, trimStart_cons_of_not_isBlank hc]
      exact .char c rest
  | lineBreak hu hv _ ih =>
    rwa [trimStart_blanks_append hu.blank, trimStart_blanks_append hv.blank]

lemma trimEnd_collapseBlanks_of_relaid (h : Relaid s t) :
    trimEnd (collapseBlanks s) = trimEnd (collapseBlanks t) ∧
      trimEnd (collapseBlanks (trimStart s)) = trimEnd (collapseBlanks (trimStart t)) := by
  -- behind a blank a text is collapsed without its leading blanks, so both are shown at once
  induction h with
  | stop hs ht =>
    rw [trimEnd_collapseBlanks_of_blanks hs, trimEnd_collapseBlanks_of_blanks ht,
      trimStart_of_blanks hs, trimStart_of_blanks ht]
    exact ⟨rfl, rfl⟩
  | char c _ ih =>
    by_cases hc : isBlank c = true
    · rw [collapseBlanks_cons_of_isBlank hc, collapseBlanks_cons_of_isBlank hc,
        trimStart_cons_of_isBlank hc, trimStart_cons_of_isBlank hc]
      exact ⟨trimEnd_append_congr ih.2 [' '], ih.2⟩
    · rw [Bool.not_eq_true] at hc
      rw [trimStart_cons_of_not_isBlank hc, trimStart_cons_of_not_isBlank hc,
        collapseBlanks_cons_of_not_isBlank hc, collapseBlanks_cons_of_not_isBlank hc]
      have hrest := trimEnd_append_congr ih.1 [c]
      exact ⟨hrest, hrest⟩
  | @lineBreak u v s t hu hv _ ih =>
    have hcollapse {w : List Char} (hw : IsLineBreak w) (x : List Char) :
        collapseBlanks (w ++ x) = ' ' :: collapseBlanks (trimStart x) := by
      cases w with
      | nil => cases hw.newline
      | cons c others =>
        obtain ⟨hc, hothers⟩ := List.forall_mem_cons.mp hw.blank
        rw [List.cons_append, collapseBlanks_cons_of_isBlank hc, trimStart_blanks_append hothers]
    rw [hcollapse hu, hcollapse hv, trimStart_blanks_append hu.blank,
      trimStart_blanks_append hv.blank]
    exact ⟨trimEnd_append_congr ih.2 [' '], ih.2⟩

end Relaid

section Suffix

variable {p : List Char → Bool} {s t blanks : List Char}

lemma anySuffix_blanks_append (hblank : ∀ c rest, isBlank c = true → p (c :: rest) = false)
    (h : ∀ c ∈ blanks, isBlank c = true) (s : List Char) :
    anySuffix p (blanks ++ s) = anySuffix p s := by
  induction blanks with
  | nil => rfl
  | cons c rest ih =>
    obtain ⟨hc, hrest⟩ := List.forall_mem_cons.mp h
    rw [List.cons_append, anySuffix, hblank c _ hc, Bool.false_or, ih hrest]

/-- What does not start with a blank and goes on alike in all layouts is found in all of them or in
none. -/
theorem anySuffix_of_relaid (hblank : ∀ c rest, isBlank c = true → p (c :: rest) = false)
    (hp : ∀ s t, Relaid s t → p s = p t) (h : Relaid s t) : anySuffix p s = anySuffix p t := by
  induction h with
  | stop hs ht =>
    have hs := anySuffix_blanks_append hblank hs []
    have ht := anySuffix_blanks_append hblank ht []
    rw [List.append_nil] at hs ht
    rw [hs, ht]
  | char c rest ih => rw [anySuffix, anySuffix, ih, hp _ _ (.char c rest)]
  | lineBreak hu hv _ ih =>
    rw [anySuffix_blanks_append hblank hu.blank, anySuffix_blanks_append hblank hv.blank, ih]

lemma isPrefixOf_of_relaid {needle : List Char} (hneedle : ∀ c ∈ needle, isBlank c = false)
    (h : Relaid s t) : needle.isPrefixOf s = needle.isPrefixOf t := by
  have hforward {s t : List Char} (h : Relaid s t) (hs : needle <+: s) : needle <+: t := by
    obtain ⟨rest, rfl⟩ := hs
    obtain ⟨rest', rfl, -⟩ := exists_of_relaid_append hneedle h
    exact List.prefix_append needle rest'
  rw [Bool.eq_iff_iff, List.isPrefixOf_iff_prefix, List.isPrefixOf_iff_prefix]
  exact ⟨hforward h, hforward (relaid_symm h)⟩

lemma isPrefixOf_cons_of_isBlank {needle : List Char} (hne : needle ≠ [])
    (hneedle : ∀ c ∈ needle, isBlank c = false) {c : Char} (hc : isBlank c = true)
    (rest : List Char) : needle.isPrefixOf (c :: rest) = false := by
  obtain ⟨d, others, rfl⟩ := List.exists_cons_of_ne_nil hne
  have hdiffer : d ≠ c := by
    rintro rfl
    rw [hneedle d List.mem_cons_self] at hc
    cases hc
  simp [List.isPrefixOf, hdiffer]

/-- Visible characters stand next to each other in all layouts. -/
lemma occurs_of_relaid {needle : List Char} (hne : needle ≠ [])
    (hneedle : ∀ c ∈ needle, isBlank c = false) (h : Relaid s t) :
    occurs needle s = occurs needle t :=
  anySuffix_of_relaid (fun _ rest hc => isPrefixOf_cons_of_isBlank hne hneedle hc rest)
    (fun _ _ => isPrefixOf_of_relaid hneedle) h

end Suffix

section SameLines

variable {s t line : List Char} {others : List (List Char)}

lemma isBlank_of_lineTexts_eq_nil (h : lineTexts s = []) : ∀ c ∈ s, isBlank c = true := by
  induction s using rowInduction with
  | last row hrow =>
    rw [lineTexts_row hrow] at h
    exact isBlank_of_trim_eq_nil (by simpa using h)
  | more row rest hrow ih =>
    rw [lineTexts_append_newline, List.append_eq_nil_iff, lineTexts_row hrow] at h
    refine List.forall_mem_append.mpr ⟨isBlank_of_trim_eq_nil (by simpa using h.1), ?_⟩
    exact List.forall_mem_cons.mpr ⟨by decide, ih h.2⟩

/-- What follows the first visible line: blanks, or a line break and the other visible lines. -/
def Follows (others : List (List Char)) (rest : List Char) : Prop :=
  (others = [] ∧ ∀ c ∈ rest, isBlank c = true) ∨
    ∃ u below, others ≠ [] ∧ rest = u ++ trimStart below ∧ IsLineBreak u ∧ lineTexts below = others

lemma follows_newline {after : List Char} (hafter : ∀ c ∈ after, isBlank c = true)
    (below : List Char) : Follows (lineTexts below) (after ++ '\n' :: below) := by
  by_cases hbelow : lineTexts below = []
  · refine .inl ⟨hbelow, List.forall_mem_append.mpr ⟨hafter, ?_⟩⟩
    exact List.forall_mem_cons.mpr ⟨by decide, isBlank_of_lineTexts_eq_nil hbelow⟩
  · obtain ⟨blanks, hsplit, hblanks⟩ := exists_blanks_trimStart below
    refine .inr ⟨after ++ '\n' :: blanks, below, hbelow, ?_, ⟨?_, by simp⟩, rfl⟩
    · conv_lhs => rw [hsplit]
      simp
    · exact List.forall_mem_append.mpr ⟨hafter, List.forall_mem_cons.mpr ⟨by decide, hblanks⟩⟩

lemma exists_of_lineTexts_eq_cons (h : lineTexts s = line :: others) :
    ∃ rest, trimStart s = line ++ rest ∧ Follows others rest := by
  induction s using rowInduction with
  | last row hrow =>
    rw [lineTexts_row hrow] at h
    split_ifs at h
    obtain ⟨rfl, rfl⟩ := List.cons.inj h
    obtain ⟨after, hsplit, hafter⟩ := exists_trim_blanks row
    exact ⟨after, hsplit, .inl ⟨rfl, hafter⟩⟩
  | more row rest hrow ih =>
    rw [lineTexts_append_newline, lineTexts_row hrow] at h
    split_ifs at h with hempty
    · have hblank : ∀ c ∈ row ++ ['\n'], isBlank c = true :=
        List.forall_mem_append.mpr ⟨isBlank_of_trim_eq_nil hempty, by simp; decide⟩
      rw [← List.singleton_append, ← List.append_assoc, trimStart_blanks_append hblank]
      exact ih h
    · obtain ⟨rfl, rfl⟩ := List.cons.inj h
      obtain ⟨after, hsplit, hafter⟩ := exists_trim_blanks row
      refine ⟨after ++ '\n' :: rest, ?_, follows_newline hafter rest⟩
      have hvisible : (trimStart row).isEmpty = false := by simp [hsplit, hempty]
      rw [trimStart, List.dropWhile_append, ← trimStart, hvisible, hsplit]
      simp

/-- Texts with the same visible lines are layouts of each other, but for blanks at their start. -/
theorem relaid_of_sameLines (h : SameLines s t) : Relaid (trimStart s) (trimStart t) := by
  unfold SameLines at h
  generalize hlines : lineTexts t = texts at h
  induction texts generalizing s t with
  | nil =>
    rw [trimStart_of_blanks (isBlank_of_lineTexts_eq_nil h),
      trimStart_of_blanks (isBlank_of_lineTexts_eq_nil hlines)]
    exact .stop (by simp) (by simp)
  | cons line others ih =>
    obtain ⟨rest, hs, hrest⟩ := exists_of_lineTexts_eq_cons h
    obtain ⟨rest', ht, hrest'⟩ := exists_of_lineTexts_eq_cons hlines
    rw [hs, ht]
    apply relaid_append
    rcases hrest with ⟨hothers, hblank⟩ | ⟨u, below, hothers, rfl, hu, hbelow⟩
    · rcases hrest' with ⟨-, hblank'⟩ | ⟨_, _, hothers', -⟩
      · exact .stop hblank hblank'
      · exact absurd hothers hothers'
    · rcases hrest' with ⟨hothers', -⟩ | ⟨v, below', -, rfl, hv, hbelow'⟩
      · exact absurd hothers' hothers
      · exact .lineBreak hu hv (ih hbelow' hbelow)

end SameLines

end Autograder.Proofs
