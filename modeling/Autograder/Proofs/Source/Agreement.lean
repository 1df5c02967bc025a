import Autograder.Proofs.Source.Uncommented

/-!
# Two ways of removing comments

Normalizing deletes comments in two passes, and masking writes blanks over them in one scan. On a
text without quotes both leave the same visible characters, as long as the block comments of the
scan are closed, hold no `//` and have no slash right behind them.
-/

namespace Autograder.Proofs

open Autograder.Text Autograder.Source

/-- What is left of a text without its blanks. -/
def visible (s : List Char) : List Char :=
  s.filter (!isBlank ·)

/-- What stands behind each opening of a block comment that the scan comes across. -/
def openings : MaskState → List Char → List (List Char)
  | _, [] => []
  | _, [_] => []
  | state, c :: d :: rest =>
    if isPair state c d then
      let others := openings (readPair state d).2 rest
      if state = .code ∧ d = '*' then rest :: others else others
    else openings (readOne state c).2 (d :: rest)

/-- The text closes the block comment that it starts in. No `//` stands in the comment, and no slash
right behind it. -/
def ClosesPlainly (s : List Char) : Prop :=
  ∃ body after, s = body ++ '*' :: '/' :: after ∧ ¬ ['*', '/'] <:+: body ∧ ¬ HasLineComment body ∧
    after.head? ≠ some '/'

section Openings

variable {state : MaskState} {c d : Char} {s : List Char}

lemma openings_one (h : ∀ d ∈ s.head?, isPair state c d = false) :
    openings state (c :: s) = openings (readOne state c).2 s := by
  cases s with
  | nil => simp [openings]
  | cons d rest => rw [openings, if_neg (by simp [h d rfl])]

lemma mem_openings_pair (h : isPair state c d = true) {rest : List Char}
    (hrest : rest ∈ openings (readPair state d).2 s) : rest ∈ openings state (c :: d :: s) := by
  rw [openings, if_pos h]
  dsimp only
  split_ifs
  · exact List.mem_cons_of_mem _ hrest
  · exact hrest

lemma mem_openings_of_opening (s : List Char) : s ∈ openings .code ('/' :: '*' :: s) := by
  simp [openings, isPair]

end Openings

section Plain

variable {state : MaskState} {c d : Char} {s : List Char}

lemma plainMarkers_of_one (hone : ∀ d ∈ s.head?, isPair state c d = false)
    (hstart : PlainStart state (c :: s)) (h : PlainMarkers (readOne state c).2 s) :
    PlainMarkers state (c :: s) := by
  have hstate (n : Nat) :
      stateAfter state ((c :: s).take (n + 1)) = stateAfter (readOne state c).2 (s.take n) :=
    stateAfter_one fun d hd => hone d (by cases s <;> cases n <;> simp_all)
  refine ⟨fun n hn hmarker => ?_, fun n hn hmarker => ?_, ?_⟩
  · cases n with
    | zero => exact hstart.line hmarker
    | succ n =>
      rw [hstate]
      exact h.line n (by simpa using hn) hmarker
  · cases n with
    | zero => exact hstart.block hmarker
    | succ n =>
      rw [hstate]
      exact h.block n (by simpa using hn) hmarker
  · rw [stateAfter_one hone]
    exact h.closed

lemma plainMarkers_of_pair (hpair : isPair state c d = true)
    (hfirst : PlainStart state (c :: d :: s)) (hsecond : PlainStart state (d :: s))
    (h : PlainMarkers (readPair state d).2 s) : PlainMarkers state (c :: d :: s) := by
  have hmiddle : stateAfter state ((c :: d :: s).take 1) = state := readOne_of_isPair hpair
  have hstate (n : Nat) :
      stateAfter state ((c :: d :: s).take (n + 2)) = stateAfter (readPair state d).2 (s.take n) :=
    stateAfter_pair hpair _
  refine ⟨fun n hn hmarker => ?_, fun n hn hmarker => ?_, ?_⟩
  · match n with
    | 0 => exact hfirst.line hmarker
    | 1 =>
      rw [hmiddle]
      exact hsecond.line hmarker
    | n + 2 =>
      rw [hstate]
      exact h.line n (by simpa using hn) hmarker
  · match n with
    | 0 => exact hfirst.block hmarker
    | 1 =>
      rw [hmiddle]
      exact hsecond.block hmarker
    | n + 2 =>
      rw [hstate]
      exact h.block n (by simpa using hn) hmarker
  · rw [stateAfter_pair hpair]
    exact h.closed

lemma plainStart_of_outside (hliteral : inLiteral state = false)
    (hblock : inBlockComment state = false) : PlainStart state s :=
  ⟨fun _ => ⟨hliteral, hblock⟩, fun _ => hliteral⟩

end Plain

section Unquoted

variable {state : MaskState} {c d : Char} {s : List Char}

/-- All that is asked of a text that the scan enters in the given state. -/
structure IsUnquoted (state : MaskState) (s : List Char) : Prop where
  outside : inLiteral state = false
  noQuote : ∀ c ∈ s, isQuote c = false
  block : inBlockComment state = true → ClosesPlainly s
  blocks : ∀ rest ∈ openings state s, ClosesPlainly rest

lemma not_closesPlainly_nil : ¬ ClosesPlainly [] := by
  rintro ⟨body, after, heq, -⟩
  simp at heq

lemma closesPlainly_of_cons (h : ClosesPlainly (c :: s))
    (hclose : ¬ (c = '*' ∧ s.head? = some '/')) : ClosesPlainly s := by
  obtain ⟨body, after, heq, hfirst, hline, hafter⟩ := h
  cases body with
  | nil =>
    obtain ⟨rfl, rfl⟩ := List.cons.inj heq
    exact absurd ⟨rfl, rfl⟩ hclose
  | cons e others =>
    obtain ⟨rfl, rfl⟩ := List.cons.inj heq
    rw [hasLineComment_cons, not_or] at hline
    exact ⟨others, after, rfl, fun hinfix => hfirst (List.infix_cons hinfix), hline.2, hafter⟩

lemma head?_of_closesPlainly (h : ClosesPlainly ('*' :: '/' :: s)) : s.head? ≠ some '/' := by
  obtain ⟨body, after, heq, hfirst, -, hafter⟩ := h
  match body with
  | [] =>
    obtain ⟨-, htail⟩ := List.cons.inj heq
    obtain ⟨-, rfl⟩ := List.cons.inj htail
    exact hafter
  | [e] => simp at heq
  | e :: f :: others =>
    obtain ⟨rfl, htail⟩ := List.cons.inj heq
    obtain ⟨rfl, -⟩ := List.cons.inj htail
    exact absurd ⟨[], others, rfl⟩ hfirst

lemma not_slashes_of_closesPlainly (h : ClosesPlainly s) : ¬ ['/', '/'] <+: s := by
  obtain ⟨body, after, rfl, -, hline, -⟩ := h
  intro hmarker
  match body with
  | [] => simp [List.cons_prefix_cons] at hmarker
  | [e] => simp [List.cons_prefix_cons] at hmarker
  | e :: f :: others =>
    simp only [List.cons_append, List.cons_prefix_cons] at hmarker
    obtain ⟨rfl, rfl, -⟩ := hmarker
    exact hline ⟨[], others, rfl⟩

lemma plainStart_of_isUnquoted (h : IsUnquoted state s) : PlainStart state s := by
  by_cases hblock : inBlockComment state = true
  · exact ⟨fun hmarker => absurd hmarker (not_slashes_of_closesPlainly (h.block hblock)),
      fun _ => h.outside⟩
  · exact plainStart_of_outside h.outside (by simpa using hblock)

lemma isUnquoted_one (h : IsUnquoted state (c :: s))
    (hone : ∀ d ∈ s.head?, isPair state c d = false) : IsUnquoted (readOne state c).2 s := by
  obtain ⟨hc, hs⟩ := List.forall_mem_cons.mp h.noQuote
  have hblocks := h.blocks
  rw [openings_one hone] at hblocks
  have hoff {next : MaskState} (hliteral : inLiteral next = false)
      (hblock : inBlockComment next = false)
      (hnext : ∀ rest ∈ openings next s, ClosesPlainly rest) : IsUnquoted next s :=
    ⟨hliteral, hs, fun h => absurd h (by simp [hblock]), hnext⟩
  cases state with
  | code =>
    refine hoff ?_ ?_ hblocks <;> simp [readOne, hc, inLiteral, inBlockComment]
  | lineComment =>
    simp only [readOne] at hblocks ⊢
    split_ifs at hblocks ⊢ <;> exact hoff rfl rfl hblocks
  | blockComment =>
    refine ⟨rfl, hs, fun _ => closesPlainly_of_cons (h.block rfl) ?_, hblocks⟩
    rintro ⟨rfl, hhead⟩
    exact absurd (hone '/' hhead) (by decide)
  | literal quote => cases h.outside

lemma isUnquoted_pair (h : IsUnquoted state (c :: d :: s)) (hpair : isPair state c d = true) :
    IsUnquoted (readPair state d).2 s ∧ PlainStart state (d :: s) := by
  obtain ⟨hc, hd, hs⟩ : isQuote c = false ∧ isQuote d = false ∧ ∀ c ∈ s, isQuote c = false := by
    simpa using h.noQuote
  have hblocks : ∀ rest ∈ openings (readPair state d).2 s, ClosesPlainly rest :=
    fun rest hrest => h.blocks rest (mem_openings_pair hpair hrest)
  cases state with
  | code =>
    refine ⟨?_, plainStart_of_outside rfl rfl⟩
    simp only [isPair, Bool.and_eq_true, Bool.or_eq_true, beq_iff_eq] at hpair
    obtain ⟨rfl, rfl | rfl⟩ := hpair
    · exact ⟨rfl, hs, fun hblock => absurd hblock (by decide), hblocks⟩
    · exact ⟨rfl, hs, fun _ => h.blocks s (mem_openings_of_opening s), hblocks⟩
  | lineComment => cases hpair
  | blockComment =>
    simp only [isPair, Bool.and_eq_true, beq_iff_eq] at hpair
    obtain ⟨rfl, rfl⟩ := hpair
    refine ⟨⟨rfl, hs, fun hblock => absurd hblock (by decide), hblocks⟩, fun hmarker => ?_,
      fun _ => rfl⟩
    exact absurd (pair_isPrefix_iff.mp hmarker).2 (head?_of_closesPlainly (h.block rfl))
  | literal quote => cases h.outside

lemma plainMarkers_nil_of_isUnquoted (h : IsUnquoted state []) : PlainMarkers state [] where
  line n hn := absurd hn (Nat.not_lt_zero n)
  block n hn := absurd hn (Nat.not_lt_zero n)
  closed := by
    by_contra hblock
    exact not_closesPlainly_nil (h.block (Bool.not_eq_false _ ▸ hblock))

lemma plainMarkers_of_isUnquoted (h : IsUnquoted state s) : PlainMarkers state s := by
  fun_induction scan state s with
  | case1 state => exact plainMarkers_nil_of_isUnquoted h
  | case2 state c =>
    have hone : ∀ e ∈ ([] : List Char).head?, isPair state c e = false := by simp
    exact plainMarkers_of_one hone (plainStart_of_isUnquoted h)
      (plainMarkers_nil_of_isUnquoted (isUnquoted_one h hone))
  | case3 state c d rest hpair ih =>
    obtain ⟨hrest, hsecond⟩ := isUnquoted_pair h hpair
    exact plainMarkers_of_pair hpair (plainStart_of_isUnquoted h) hsecond (ih hrest)
  | case4 state c d rest hpair ih =>
    have hone : ∀ e ∈ (d :: rest).head?, isPair state c e = false := by simpa using hpair
    exact plainMarkers_of_one hone (plainStart_of_isUnquoted h) (ih (isUnquoted_one h hone))

lemma role_ne_literal (hstate : inLiteral state = false) (hquote : ∀ c ∈ s, isQuote c = false) :
    ∀ p ∈ roles state s, p.2 ≠ .literal := by
  have hone {state : MaskState} {c : Char} (hstate : inLiteral state = false)
      (hc : isQuote c = false) :
      (readOne state c).1 ≠ .literal ∧ inLiteral (readOne state c).2 = false := by
    cases state with
    | code => simp [readOne, hc, inLiteral]
    | lineComment =>
      simp only [readOne]
      split_ifs <;> exact ⟨Role.noConfusion, rfl⟩
    | blockComment => exact ⟨Role.noConfusion, rfl⟩
    | literal quote => cases hstate
  have hpair {state : MaskState} (hstate : inLiteral state = false) (d : Char) :
      (readPair state d).1 ≠ .literal ∧ inLiteral (readPair state d).2 = false := by
    cases state with
    | code =>
      simp only [readPair]
      split_ifs <;> exact ⟨Role.noConfusion, rfl⟩
    | lineComment | blockComment => exact ⟨Role.noConfusion, rfl⟩
    | literal quote => cases hstate
  unfold roles
  fun_induction scan state s with
  | case1 => simp
  | case2 state c => simpa using (hone hstate (hquote c List.mem_cons_self)).1
  | case3 state c d rest hmarker ih =>
    obtain ⟨hrole, hnext⟩ := hpair hstate d
    have hrest := ih hnext fun e he => hquote e (by simp [he])
    simpa [withFront, hrole] using hrest
  | case4 state c d rest hmarker ih =>
    obtain ⟨hrole, hnext⟩ := hone hstate (hquote c List.mem_cons_self)
    have hrest := ih hnext fun e he => hquote e (List.mem_cons_of_mem _ he)
    simpa [withFront, hrole] using hrest

lemma isBlank_blankOut (c : Char) : isBlank (blankOut c) = true := by
  unfold blankOut
  split_ifs <;> decide

lemma visible_map_shown {scanned : List (Char × Role)} (h : ∀ p ∈ scanned, p.2 ≠ .literal) :
    visible (scanned.map shown) =
      visible ((scanned.filter fun p => p.2 ≠ .comment).map Prod.fst) := by
  unfold visible
  induction scanned with
  | nil => rfl
  | cons p others ih =>
    obtain ⟨hp, hothers⟩ := List.forall_mem_cons.mp h
    obtain ⟨c, role⟩ := p
    cases role with
    | code =>
      rw [List.map_cons, List.filter_cons, ih hothers, List.filter_cons_of_pos (by simp),
        List.map_cons, List.filter_cons]
      rfl
    | literal => exact absurd rfl hp
    | comment =>
      rw [List.map_cons, List.filter_cons_of_neg (by simp [shown, isBlank_blankOut]), ih hothers,
        List.filter_cons_of_neg (by simp)]

end Unquoted

section Agreement

variable {s : List Char}

/-- Without quotes, the passes and masking leave the same visible characters, if every block comment
of the scan is closed, and neither holds a `//` nor has a slash right behind it. -/
theorem visible_dropComments_eq_visible_mask (hquote : ∀ c ∈ s, isQuote c = false)
    (hblocks : ∀ rest ∈ openings .code s, ClosesPlainly rest) :
    visible (dropBlockComments (dropLineComments s)) = visible (mask s) := by
  have hunquoted : IsUnquoted .code s :=
    ⟨rfl, hquote, fun hblock => absurd hblock (by decide), hblocks⟩
  have hpasses : dropBlockComments (dropLineComments s) = uncommented s :=
    dropCommentsFrom_eq_uncommentedFrom (plainMarkers_of_isUnquoted hunquoted)
  rw [hpasses, mask, maskFrom_eq_map_shown, visible_map_shown (role_ne_literal rfl hquote)]
  rfl

/-- A comment that holds an opening, an empty one, and an opening in a line comment. -/
theorem visible_dropComments_eq_visible_mask_crowded :
    (∀ c ∈ "a /*/**/ /**/ // /*\n*/".toList, isQuote c = false) ∧
      (∀ rest ∈ openings .code "a /*/**/ /**/ // /*\n*/".toList, ClosesPlainly rest) ∧
      visible (dropBlockComments (dropLineComments "a /*/**/ /**/ // /*\n*/".toList)) =
        visible (mask "a /*/**/ /**/ // /*\n*/".toList) := by
  have hquote : ∀ c ∈ "a /*/**/ /**/ // /*\n*/".toList, isQuote c = false := by simp [isQuote]
  have hblocks : ∀ rest ∈ openings .code "a /*/**/ /**/ // /*\n*/".toList, ClosesPlainly rest := by
    have hopenings : openings .code "a /*/**/ /**/ // /*\n*/".toList =
        ["/**/ /**/ // /*\n*/".toList, "*/ // /*\n*/".toList] := by decide +kernel
    rw [hopenings]
    refine List.forall_mem_cons.mpr ⟨?_, List.forall_mem_singleton.mpr ?_⟩
    · exact ⟨"/*".toList, " /**/ // /*\n*/".toList, by decide, by decide,
        by unfold HasLineComment; decide, by decide⟩
    · exact ⟨[], " // /*\n*/".toList, by decide, by decide, by simp [HasLineComment], by decide⟩
  exact ⟨hquote, hblocks, visible_dropComments_eq_visible_mask hquote hblocks⟩

end Agreement

end Autograder.Proofs
