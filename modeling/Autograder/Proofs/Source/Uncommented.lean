import Autograder.Proofs.Source.Layout
import Autograder.Proofs.Source.Scan

/-!
# Where the passes and the scan agree on comments

Normalizing removes comments in two passes that know nothing of literals, and the first of which
knows nothing of block comments. The scan that masking uses tells them apart. The two agree on a
text whose markers of comments all stand where the scan reads them as such.
-/

namespace Autograder.Proofs

open Autograder.Text Autograder.Source

/-- The text without its comments, as the scan delimits them; literals stay. -/
def uncommentedFrom (state : MaskState) (s : List Char) : List Char :=
  ((roles state s).filter fun p => p.2 ≠ .comment).map Prod.fst

def uncommented (s : List Char) : List Char :=
  uncommentedFrom .code s

def inLiteral : MaskState → Bool
  | .literal _ => true
  | _ => false

def inLineComment : MaskState → Bool
  | .lineComment => true
  | _ => false

def inBlockComment : MaskState → Bool
  | .blockComment => true
  | _ => false

/-- No `//` starts in a literal or block comment, no `/*` starts in a literal, and the last block
comment is closed. -/
structure PlainMarkers (state : MaskState) (s : List Char) : Prop where
  line : ∀ n < s.length, ['/', '/'] <+: s.drop n →
    inLiteral (stateAfter state (s.take n)) = false ∧
      inBlockComment (stateAfter state (s.take n)) = false
  block : ∀ n < s.length, ['/', '*'] <+: s.drop n → inLiteral (stateAfter state (s.take n)) = false
  closed : inBlockComment (stateAfter state s) = false

section Step

variable {state : MaskState} {c d : Char} {s : List Char}

lemma uncommentedFrom_one (h : ∀ d ∈ s.head?, isPair state c d = false) :
    uncommentedFrom state (c :: s) =
      (if (readOne state c).1 = .comment then [] else [c]) ++
        uncommentedFrom (readOne state c).2 s := by
  rw [uncommentedFrom, roles, scan_one h, uncommentedFrom]
  by_cases hrole : (readOne state c).1 = .comment <;> simp [withFront, roles, hrole]

lemma uncommentedFrom_pair (h : isPair state c d = true) (s : List Char) :
    uncommentedFrom state (c :: d :: s) =
      (if (readPair state d).1 = .comment then [] else [c, d]) ++
        uncommentedFrom (readPair state d).2 s := by
  rw [uncommentedFrom, roles, scan_pair h, uncommentedFrom]
  by_cases hrole : (readPair state d).1 = .comment <;> simp [withFront, roles, hrole]

lemma plainMarkers_one (h : PlainMarkers state (c :: s))
    (hone : ∀ d ∈ s.head?, isPair state c d = false) : PlainMarkers (readOne state c).2 s := by
  have hstate (n : Nat) :
      stateAfter state ((c :: s).take (n + 1)) = stateAfter (readOne state c).2 (s.take n) :=
    stateAfter_one fun d hd => hone d (by cases s <;> cases n <;> simp_all)
  refine ⟨fun n hn hmarker => ?_, fun n hn hmarker => ?_, ?_⟩
  · rw [← hstate]
    exact h.line (n + 1) (by simpa using hn) hmarker
  · rw [← hstate]
    exact h.block (n + 1) (by simpa using hn) hmarker
  · rw [← stateAfter_one hone]
    exact h.closed

lemma plainMarkers_pair (h : PlainMarkers state (c :: d :: s)) (hpair : isPair state c d = true) :
    PlainMarkers (readPair state d).2 s := by
  have hstate (n : Nat) :
      stateAfter state ((c :: d :: s).take (n + 2)) = stateAfter (readPair state d).2 (s.take n) :=
    stateAfter_pair hpair _
  refine ⟨fun n hn hmarker => ?_, fun n hn hmarker => ?_, ?_⟩
  · rw [← hstate]
    exact h.line (n + 2) (by simpa using hn) hmarker
  · rw [← hstate]
    exact h.block (n + 2) (by simpa using hn) hmarker
  · rw [← stateAfter_pair hpair]
    exact h.closed

/-- The text does not start with a marker that the scan would not read as one. -/
structure PlainStart (state : MaskState) (s : List Char) : Prop where
  line : ['/', '/'] <+: s → inLiteral state = false ∧ inBlockComment state = false
  block : ['/', '*'] <+: s → inLiteral state = false

lemma plainStart_of_plainMarkers (h : PlainMarkers state s) : PlainStart state s where
  line hmarker := h.line 0 (Nat.lt_of_lt_of_le (by decide) hmarker.length_le) hmarker
  block hmarker := h.block 0 (Nat.lt_of_lt_of_le (by decide) hmarker.length_le) hmarker

/-- In the middle of a pair the state is what it was before. -/
lemma plainStart_second (h : PlainMarkers state (c :: d :: s)) (hpair : isPair state c d = true) :
    PlainStart state (d :: s) := by
  have hstate : stateAfter state ((c :: d :: s).take 1) = state := readOne_of_isPair hpair
  constructor
  · intro hmarker
    have := h.line 1 (by simp) hmarker
    rwa [hstate] at this
  · intro hmarker
    have := h.block 1 (by simp) hmarker
    rwa [hstate] at this

lemma pair_isPrefix_iff {a b : Char} : [a, b] <+: c :: s ↔ c = a ∧ s.head? = some b := by
  cases s <;> simp [List.cons_prefix_cons, eq_comm]

lemma not_slashes_of_plainStart (h : PlainStart state (c :: s))
    (hstate : inLiteral state = true ∨ inBlockComment state = true) :
    ¬ (c = '/' ∧ s.head? = some '/') := by
  intro hmarker
  obtain ⟨hliteral, hblock⟩ := h.line (pair_isPrefix_iff.mpr hmarker)
  simp [hliteral, hblock] at hstate

lemma not_opening_of_plainStart (h : PlainStart state (c :: s)) (hstate : inLiteral state = true) :
    ¬ (c = '/' ∧ s.head? = some '*') := by
  intro hmarker
  have hliteral := h.block (pair_isPrefix_iff.mpr hmarker)
  simp [hliteral] at hstate

end Step

section Passes

variable {state : MaskState} {c d : Char} {s : List Char}

/-- Both passes, for a text that the scan enters in the given state. -/
def dropCommentsFrom (state : MaskState) (s : List Char) : List Char :=
  dropBlockCommentsFrom (inBlockComment state) (dropLineCommentsFrom (inLineComment state) s)

lemma readOne_of_outside (hline : inLineComment state = false)
    (hblock : inBlockComment state = false) (c : Char) :
    (readOne state c).1 ≠ .comment ∧ inLineComment (readOne state c).2 = false ∧
      inBlockComment (readOne state c).2 = false := by
  cases state with
  | code =>
    simp only [readOne]
    split_ifs <;> exact ⟨Role.noConfusion, rfl, rfl⟩
  | lineComment => cases hline
  | blockComment => cases hblock
  | literal quote =>
    simp only [readOne]
    split_ifs <;> exact ⟨Role.noConfusion, rfl, rfl⟩

lemma dropComments_cons (hline : ¬ (c = '/' ∧ s.head? = some '/'))
    (hblock : ¬ (c = '/' ∧ s.head? = some '*')) :
    dropBlockCommentsFrom false (dropLineCommentsFrom false (c :: s)) =
      c :: dropBlockCommentsFrom false (dropLineCommentsFrom false s) := by
  rw [dropLineCommentsFrom_cons hline]
  refine dropBlockCommentsFrom_cons ?_
  rintro ⟨rfl, hstar⟩
  rw [head?_dropLineCommentsFrom fun hslash => hline ⟨rfl, hslash⟩] at hstar
  exact hblock ⟨rfl, hstar⟩

lemma dropComments_blockComment_cons (hline : ¬ (c = '/' ∧ s.head? = some '/'))
    (hclose : ¬ (c = '*' ∧ s.head? = some '/')) :
    dropBlockCommentsFrom true (dropLineCommentsFrom false (c :: s)) =
      dropBlockCommentsFrom true (dropLineCommentsFrom false s) := by
  rw [dropLineCommentsFrom_cons hline]
  refine dropBlockCommentsFrom_true_cons ?_
  rintro ⟨rfl, hslash⟩
  rw [head?_dropLineCommentsFrom fun hs => hclose ⟨rfl, hs⟩] at hslash
  exact hclose ⟨rfl, hslash⟩

lemma dropLineCommentsFrom_close (h : PlainMarkers .blockComment ('*' :: '/' :: s)) :
    dropLineCommentsFrom false ('*' :: '/' :: s) = '*' :: '/' :: dropLineCommentsFrom false s := by
  have hsecond := plainStart_second h (by decide)
  rw [dropLineCommentsFrom_cons (by simp),
    dropLineCommentsFrom_cons (not_slashes_of_plainStart hsecond (.inr rfl))]

/-- A block comment that the scan closes has a close after the first pass, too. -/
lemma occurs_close_of_plainMarkers (h : PlainMarkers .blockComment s) :
    occurs ['*', '/'] (dropLineCommentsFrom false s) = true := by
  rw [occurs_eq_true_iff]
  generalize hstate : MaskState.blockComment = state at h
  fun_induction scan state s with
  | case1 state =>
    subst hstate
    cases h.closed
  | case2 state c =>
    subst hstate
    cases h.closed
  | case3 state c d rest hpair ih =>
    subst hstate
    simp only [isPair, Bool.and_eq_true, beq_iff_eq] at hpair
    obtain ⟨rfl, rfl⟩ := hpair
    rw [dropLineCommentsFrom_close h]
    exact ⟨[], dropLineCommentsFrom false rest, rfl⟩
  | case4 state c d rest hpair ih =>
    subst hstate
    have hslashes := not_slashes_of_plainStart (plainStart_of_plainMarkers h) (.inr rfl)
    rw [dropLineCommentsFrom_cons hslashes]
    exact List.infix_cons (ih rfl (plainMarkers_one h (by simpa using hpair)))

lemma dropCommentsFrom_one (h : PlainMarkers state (c :: s))
    (hone : ∀ d ∈ s.head?, isPair state c d = false) :
    dropCommentsFrom state (c :: s) = (if (readOne state c).1 = .comment then [] else [c]) ++
      dropCommentsFrom (readOne state c).2 s := by
  have hstart := plainStart_of_plainMarkers h
  have houtside (hline : inLineComment state = false) (hblock : inBlockComment state = false)
      (hslash : ¬ (c = '/' ∧ s.head? = some '/')) (hopen : ¬ (c = '/' ∧ s.head? = some '*')) :
      dropCommentsFrom state (c :: s) = (if (readOne state c).1 = .comment then [] else [c]) ++
        dropCommentsFrom (readOne state c).2 s := by
    obtain ⟨hrole, hline', hblock'⟩ := readOne_of_outside hline hblock c
    rw [dropCommentsFrom, hline, hblock, dropComments_cons hslash hopen, if_neg hrole,
      dropCommentsFrom, hline', hblock', List.singleton_append]
  cases state with
  | code =>
    refine houtside rfl rfl ?_ ?_
    · rintro ⟨rfl, hs⟩
      exact absurd (hone '/' hs) (by decide)
    · rintro ⟨rfl, hs⟩
      exact absurd (hone '*' hs) (by decide)
  | lineComment =>
    by_cases hc : c = '\n'
    · have hkeep := dropBlockCommentsFrom_cons (c := c) (s := dropLineCommentsFrom false s)
        (by simp [hc])
      rw [hc] at hkeep ⊢
      exact hkeep
    · simp [dropCommentsFrom, readOne, dropLineCommentsFrom, inLineComment, inBlockComment, hc]
  | blockComment =>
    refine dropComments_blockComment_cons (not_slashes_of_plainStart hstart (.inr rfl)) ?_
    rintro ⟨rfl, hs⟩
    exact absurd (hone '/' hs) (by decide)
  | literal quote =>
    exact houtside rfl rfl (not_slashes_of_plainStart hstart (.inl rfl))
      (not_opening_of_plainStart hstart rfl)

lemma dropCommentsFrom_pair (h : PlainMarkers state (c :: d :: s))
    (hpair : isPair state c d = true) :
    dropCommentsFrom state (c :: d :: s) =
      (if (readPair state d).1 = .comment then [] else [c, d]) ++
        dropCommentsFrom (readPair state d).2 s := by
  have hsecond := plainStart_second h hpair
  have hrest := plainMarkers_pair h hpair
  cases state with
  | code =>
    simp only [isPair, Bool.and_eq_true, Bool.or_eq_true, beq_iff_eq] at hpair
    obtain ⟨rfl, rfl | rfl⟩ := hpair
    · rfl
    · -- the second pass looks ahead for the close, which the first one must not have removed
      have hclose : occurs ['*', '/'] (dropLineCommentsFrom false s) = true :=
        occurs_close_of_plainMarkers hrest
      have hline : dropLineCommentsFrom false ('/' :: '*' :: s) =
          '/' :: '*' :: dropLineCommentsFrom false s := by
        rw [dropLineCommentsFrom_cons (by simp), dropLineCommentsFrom_cons (by simp)]
      simp only [dropCommentsFrom, inLineComment, inBlockComment, hline]
      rw [dropBlockCommentsFrom, if_pos hclose]
      rfl
  | lineComment => cases hpair
  | blockComment =>
    simp only [isPair, Bool.and_eq_true, beq_iff_eq] at hpair
    obtain ⟨rfl, rfl⟩ := hpair
    simp only [dropCommentsFrom, inLineComment, inBlockComment, dropLineCommentsFrom_close h]
    rfl
  | literal quote =>
    obtain rfl := beq_iff_eq.mp hpair
    have hescape := dropComments_cons (c := '\\') (s := d :: s) (by simp) (by simp)
    have hescaped := dropComments_cons (not_slashes_of_plainStart hsecond (.inl rfl))
      (not_opening_of_plainStart hsecond rfl)
    rw [hescaped] at hescape
    exact hescape

theorem dropCommentsFrom_eq_uncommentedFrom (h : PlainMarkers state s) :
    dropCommentsFrom state s = uncommentedFrom state s := by
  fun_induction scan state s with
  | case1 state => cases state <;> rfl
  | case2 state c =>
    have hone : ∀ e ∈ ([] : List Char).head?, isPair state c e = false := by simp
    rw [dropCommentsFrom_one h hone, uncommentedFrom_one hone]
    cases (readOne state c).2 <;> rfl
  | case3 state c d rest hpair ih =>
    rw [dropCommentsFrom_pair h hpair, ih (plainMarkers_pair h hpair),
      uncommentedFrom_pair hpair]
  | case4 state c d rest hpair ih =>
    have hone : ∀ e ∈ (d :: rest).head?, isPair state c e = false := by simpa using hpair
    rw [dropCommentsFrom_one h hone, ih (plainMarkers_one h hone), uncommentedFrom_one hone]

end Passes

end Autograder.Proofs
