import Autograder.Check.Pseint
import Autograder.Proofs.Check.LineForms
import Autograder.Proofs.Source.LineComments

/-!
# What a line says

A phrase is a text that is visible at both ends and in which neither a literal nor a comment starts.
Phrases with gaps between them are a phrase again, so a line can be put together from keywords and
expressions; and what the check reads of a line is the phrase in it, however the line is indented
and whatever comment stands behind.
-/

namespace Autograder.Proofs

open Autograder.Check.Pseint Autograder.Text Autograder.Source

/-- The text is visible at both ends, and has no quotes and no comments. -/
@[mk_iff] structure IsPhrase (s : List Char) : Prop where
  visible : s ≠ []
  start : StartsOutside isBlank s
  stop : ∀ c ∈ s.getLast?, isBlank c = false
  unquoted : ∀ c ∈ s, isQuote c = false
  uncommented : ¬ HasLineComment s

instance (s : List Char) : Decidable (blanks s) :=
  decidable_of_iff (s.all isBlank = true) List.all_eq_true

instance (s : List Char) : Decidable (HasLineComment s) :=
  inferInstanceAs (Decidable (['/', '/'] <:+: s))

instance (s : List Char) : Decidable (IsPhrase s) :=
  decidable_of_iff (s ≠ [] ∧ s.head?.all (!isBlank ·) = true ∧ s.getLast?.all (!isBlank ·) = true ∧
    s.all (!isQuote ·) = true ∧ ¬ HasLineComment s)
    (by simp [isPhrase_iff, StartsOutside, Option.all_eq_true])

/-- All texts of the shape are phrases. -/
def IsPhrasal (shape : Shape) : Prop := ∀ s, shape s → IsPhrase s

/-- The texts that consist of parts in order, with a gap between any two of them. -/
def spaced : List Shape → Shape
  | [] => fun s => s = []
  | [part] => part
  | part :: next :: others => inOrder [part, gap, spaced (next :: others)]

def comment : Shape := inOrder [exactly "//", fun _ => True]

/-- What may stand behind a phrase: blanks, or a comment with a gap before it. -/
def trailing : Shape := fun s => blanks s ∨ inOrder [gap, comment] s

/-- A line with a phrase of the given shape. -/
def saying (phrase : Shape) : Shape := inOrder [blanks, phrase, trailing]

/-- A blank line, or one with a comment only. -/
def silent : Shape := inOrder [blanks, optional comment]

section Phrases

variable {s t between : List Char}

lemma not_slash_of_blanks (h : blanks s) : ∀ c ∈ s, c ≠ '/' :=
  fun c hc => ne_of_isBlank (h c hc) (by decide)

lemma hasLineComment_append (hcut : ¬ (s.getLast? = some '/' ∧ t.head? = some '/')) :
    HasLineComment (s ++ t) ↔ HasLineComment s ∨ HasLineComment t := by
  induction s with
  | nil => simp [HasLineComment]
  | cons c rest ih =>
    rw [List.cons_append, hasLineComment_cons, hasLineComment_cons]
    cases rest with
    | nil =>
      have hpair : ¬ (c = '/' ∧ t.head? = some '/') :=
        fun hpair => hcut ⟨by simp [hpair.1], hpair.2⟩
      simp [hpair, HasLineComment]
    | cons d others =>
      rw [ih (by rwa [List.getLast?_cons_cons] at hcut), or_assoc]
      rfl

lemma hasLineComment_append_blanks (h : blanks t) : HasLineComment (s ++ t) ↔ HasLineComment s := by
  have hslash := not_slash_of_blanks h
  rw [hasLineComment_append fun hcut => hslash _ (List.mem_of_mem_head? hcut.2) rfl,
    or_iff_left fun hpair => hslash '/' (hpair.subset List.mem_cons_self) rfl]

lemma isPhrase_of_words (hne : s ≠ []) (h : ∀ c ∈ s, isWord c = true) : IsPhrase s where
  visible := hne
  start := startsOutside_of_all fun c hc => not_isBlank_of_isWord (h c hc)
  stop c hc := not_isBlank_of_isWord (h c (List.mem_of_mem_getLast? hc))
  unquoted c hc := by
    have hne {d : Char} (hd : isWord d = false) : c ≠ d := by
      rintro rfl
      rw [h c hc] at hd
      cases hd
    simp [isQuote, hne (d := '"') (by decide), hne (d := '\'') (by decide)]
  uncommented hpair := absurd (h '/' (hpair.subset List.mem_cons_self)) (by decide)

/-- Phrases with blanks between them are a phrase; without blanks, the slash of a comment must not
come from either. -/
lemma isPhrase_append (hs : IsPhrase s) (hbetween : blanks between) (ht : IsPhrase t)
    (hcut : between = [] → s.getLast? ≠ some '/') : IsPhrase (s ++ (between ++ t)) where
  visible := by simp [hs.visible]
  start := by
    obtain ⟨c, rest, rfl⟩ := List.exists_cons_of_ne_nil hs.visible
    exact startsOutside_cons.mpr (startsOutside_cons.mp hs.start)
  stop c hc := by
    obtain ⟨d, hd⟩ := Option.ne_none_iff_exists'.mp (List.getLast?_eq_none_iff.not.mpr ht.visible)
    rw [List.getLast?_append, List.getLast?_append, hd, Option.some_or, Option.some_or] at hc
    exact ht.stop c (hd ▸ hc)
  unquoted c hc := by
    rcases List.mem_append.mp hc with hc | hc
    · exact hs.unquoted c hc
    rcases List.mem_append.mp hc with hc | hc
    · exact not_isQuote_of_isBlank (hbetween c hc)
    · exact ht.unquoted c hc
  uncommented := by
    rw [← List.append_assoc, hasLineComment_append, hasLineComment_append_blanks hbetween, not_or]
    · exact ⟨hs.uncommented, ht.uncommented⟩
    · rintro ⟨hlast, -⟩
      rcases eq_or_ne between [] with rfl | hne
      · exact hcut rfl (by simpa using hlast)
      · rw [List.getLast?_append_of_ne_nil _ hne] at hlast
        exact not_slash_of_blanks hbetween '/' (List.mem_of_mem_getLast? hlast) rfl

lemma spaced_cons_cons {part next : Shape} {others : List Shape} :
    spaced (part :: next :: others) s ↔ ∃ first between rest, s = first ++ (between ++ rest) ∧
      part first ∧ gap between ∧ spaced (next :: others) rest := by
  constructor
  · rintro ⟨first, _, rfl, hfirst, between, _, rfl, hgap, rest, _, rfl, hrest, rfl⟩
    exact ⟨first, between, rest, by rw [List.append_nil], hfirst, hgap, hrest⟩
  · rintro ⟨first, between, rest, rfl, hfirst, hgap, hrest⟩
    exact ⟨first, _, rfl, hfirst, between, _, rfl, hgap, rest, [], (List.append_nil _).symm, hrest,
      rfl⟩

lemma isPhrasal_spaced {parts : List Shape} (hne : parts ≠ [])
    (hparts : ∀ part ∈ parts, IsPhrasal part) : IsPhrasal (spaced parts) := by
  fun_induction spaced parts with
  | case1 => exact absurd rfl hne
  | case2 part => exact hparts part List.mem_cons_self
  | case3 part next others ih =>
    obtain ⟨hpart, hothers⟩ := List.forall_mem_cons.mp hparts
    intro s h
    obtain ⟨first, between, rest, rfl, hfirst, hgap, hrest⟩ := spaced_cons_cons.mp h
    exact isPhrase_append (hpart first hfirst) hgap.2
      (ih (List.cons_ne_nil _ _) hothers rest hrest) fun hnil => absurd hnil hgap.1

lemma headed_of_spaced {word : Shape} {others : List Shape} (h : spaced (word :: others) s) :
    headed word s := by
  cases others with
  | nil => exact ⟨s, [], (List.append_nil s).symm, h, startsOutside_nil⟩
  | cons next others =>
    obtain ⟨first, between, rest, rfl, hfirst, hgap, -⟩ := spaced_cons_cons.mp h
    exact ⟨first, _, rfl, hfirst, startsOutside_isWord_of_gap hgap⟩

end Phrases

section Lines

variable {s row : List Char}

lemma saying_append {before after : List Char} {phrase : Shape} (hbefore : blanks before)
    (h : phrase s) (hafter : trailing after) : saying phrase (before ++ (s ++ after)) :=
  ⟨before, _, rfl, hbefore, s, _, rfl, h, after, [], (List.append_nil _).symm, hafter, rfl⟩

lemma quoteAfter?_of_unquoted (hunquoted : ∀ c ∈ s, isQuote c = false)
    (huncommented : ¬ HasLineComment s) : quoteAfter? none s = some none := by
  induction s with
  | nil => rfl
  | cons c rest ih =>
    rw [hasLineComment_cons, not_or] at huncommented
    obtain ⟨hc, hrest⟩ := List.forall_mem_cons.mp hunquoted
    rw [quoteAfter?, hc]
    · exact ih hrest huncommented.2
    · rintro others rfl rfl
      exact huncommented.1 ⟨rfl, rfl⟩

lemma stripLineComment_trailing {after : List Char} (hs : IsPhrase s) (h : trailing after) :
    trim (stripLineComment (s ++ after)) = s := by
  have houtside {blank : List Char} (hblank : blanks blank) :
      quoteAfter? none (s ++ blank) = some none := by
    refine quoteAfter?_of_unquoted ?_ ((hasLineComment_append_blanks hblank).not.mpr hs.uncommented)
    exact List.forall_mem_append.mpr
      ⟨hs.unquoted, fun c hc => not_isQuote_of_isBlank (hblank c hc)⟩
  have htrim {blank : List Char} (hblank : blanks blank) : trim (s ++ blank) = s := by
    rw [trim_append_blanks hblank, trim_eq_self hs.start hs.stop]
  rcases h with hblank | ⟨between, _, rfl, ⟨hne, hblank⟩, _, _, rfl, ⟨_, text, rfl, rfl, -⟩, rfl⟩
  · rw [stripLineComment, stripCommentFrom_eq_self (houtside hblank), htrim hblank]
  · have hslash : (s ++ between).getLast? ≠ some '/' := by
      rw [List.getLast?_append_of_ne_nil _ hne]
      exact fun hlast => not_slash_of_blanks hblank '/' (List.mem_of_mem_getLast? hlast) rfl
    have hsplit : s ++ (between ++ ("//".toList ++ text ++ [])) =
        s ++ between ++ '/' :: '/' :: text := by simp
    rw [hsplit, stripLineComment, stripCommentFrom_append_comment (houtside hblank) hslash,
      htrim hblank]

lemma statementOf_blanks_append {before rest : List Char} (h : blanks before) :
    statementOf (before ++ rest) = trim (stripLineComment rest) := by
  rw [statementOf, trim_stripLineComment_trim, stripLineComment_blanks_append h,
    trim_blanks_append h]

theorem statementOf_saying {phrase : Shape} (hphrase : IsPhrasal phrase)
    (h : saying phrase row) : phrase (statementOf row) := by
  obtain ⟨before, _, rfl, hbefore, s, _, rfl, hs, after, _, rfl, hafter, rfl⟩ := h
  rw [statementOf_blanks_append hbefore, List.append_nil,
    stripLineComment_trailing (hphrase s hs) hafter]
  exact hs

theorem statementOf_silent (h : silent row) : statementOf row = [] := by
  obtain ⟨before, _, rfl, hbefore, text, _, rfl, rfl | ⟨_, words, rfl, rfl, -⟩, rfl⟩ := h
  · rw [statementOf_blanks_append hbefore]
    rfl
  · rw [statementOf_blanks_append hbefore]
    rfl

end Lines

end Autograder.Proofs
