import Mathlib
import Autograder.Source.Mask

/-!
# The scan that tells comments and literals apart

The scan reads a text from left to right, one character or one pair at a time, and gives every
character its role. Masking shows code as it is and blanks out the rest. A text can be scanned in
two parts, as long as the cut does not separate a pair.
-/

namespace Autograder.Proofs

open Autograder.Source

/-- What a character is part of. The quotes of a literal count as code. -/
inductive Role where
  | code
  | literal
  | comment
deriving DecidableEq

/-- Whether two characters are read as one: a comment marker, or a backslash and what it escapes. -/
def isPair : MaskState → Char → Char → Bool
  | .code, c, d => c == '/' && (d == '/' || d == '*')
  | .lineComment, _, _ => false
  | .blockComment, c, d => c == '*' && d == '/'
  | .literal _, c, _ => c == '\\'

/-- The role of a pair that ends in the given character, and the state behind it. -/
def readPair : MaskState → Char → Role × MaskState
  | .code, d => (.comment, if d == '/' then .lineComment else .blockComment)
  | .literal quote, _ => (.literal, .literal quote)
  | _, _ => (.comment, .code)

/-- The role of a single character, and the state behind it. -/
def readOne : MaskState → Char → Role × MaskState
  | .code, c => (.code, if isQuote c then .literal c else .code)
  | .lineComment, c => if c == '\n' then (.code, .code) else (.comment, .lineComment)
  | .blockComment, _ => (.comment, .blockComment)
  | .literal quote, c =>
    if c == '\n' then (.code, .code)
    else if c == '\\' then (.literal, .literal quote)
    else if c == quote then (.code, .code)
    else (.literal, .literal quote)

/-- Characters with their roles, in front of a text that is scanned already. -/
def withFront (front : List (Char × Role)) (scanned : List (Char × Role) × MaskState) :
    List (Char × Role) × MaskState :=
  (front ++ scanned.1, scanned.2)

/-- The roles of the characters of a text that starts in the given state, and the state behind
it. -/
def scan : MaskState → List Char → List (Char × Role) × MaskState
  | state, [] => ([], state)
  | state, [c] => ([(c, (readOne state c).1)], (readOne state c).2)
  | state, c :: d :: rest =>
    if isPair state c d then
      withFront [(c, (readPair state d).1), (d, (readPair state d).1)]
        (scan (readPair state d).2 rest)
    else withFront [(c, (readOne state c).1)] (scan (readOne state c).2 (d :: rest))

def roles (state : MaskState) (s : List Char) : List (Char × Role) :=
  (scan state s).1

def stateAfter (state : MaskState) (s : List Char) : MaskState :=
  (scan state s).2

section Scan

variable {state : MaskState} {c d : Char} {s t : List Char}

lemma scan_pair (h : isPair state c d = true) (s : List Char) :
    scan state (c :: d :: s) =
      withFront [(c, (readPair state d).1), (d, (readPair state d).1)]
        (scan (readPair state d).2 s) := by
  rw [scan, if_pos h]

lemma scan_one (h : ∀ d ∈ s.head?, isPair state c d = false) :
    scan state (c :: s) = withFront [(c, (readOne state c).1)] (scan (readOne state c).2 s) := by
  cases s with
  | nil => rfl
  | cons d rest => rw [scan, if_neg (by simp [h d rfl])]

lemma stateAfter_one (h : ∀ d ∈ s.head?, isPair state c d = false) :
    stateAfter state (c :: s) = stateAfter (readOne state c).2 s := by
  rw [stateAfter, scan_one h]
  rfl

lemma stateAfter_pair (h : isPair state c d = true) (s : List Char) :
    stateAfter state (c :: d :: s) = stateAfter (readPair state d).2 s := by
  rw [stateAfter, scan_pair h]
  rfl

/-- Reading the first character of a pair alone does not change the state. -/
lemma readOne_of_isPair (h : isPair state c d = true) : (readOne state c).2 = state := by
  cases state with
  | code =>
    simp only [isPair, Bool.and_eq_true, beq_iff_eq] at h
    rw [h.1]
    rfl
  | lineComment => cases h
  | blockComment => rfl
  | literal quote =>
    rw [beq_iff_eq.mp h]
    rfl

lemma withFront_append {front : List (Char × Role)} {scanned : List (Char × Role) × MaskState} :
    withFront (front ++ scanned.1) (scan scanned.2 s) =
      withFront front (withFront scanned.1 (scan scanned.2 s)) := by
  simp [withFront]

/-- The two texts can be scanned one after the other: the cut between them separates no pair. -/
def IsCut (state : MaskState) (s t : List Char) : Prop :=
  ∀ c ∈ s.getLast?, ∀ d ∈ t.head?, isPair (stateAfter state s) c d = false

/-- A text is scanned in two parts, unless the cut separates a pair. -/
theorem scan_append (h : IsCut state s t) :
    scan state (s ++ t) = withFront (roles state s) (scan (stateAfter state s) t) := by
  unfold IsCut at h
  unfold roles stateAfter at *
  fun_induction scan state s with
  | case1 state => simp [withFront]
  | case2 state c =>
    apply scan_one
    intro d hd
    by_contra hpair
    rw [Bool.not_eq_false] at hpair
    have := h c (by simp) d hd
    rw [readOne_of_isPair hpair, hpair] at this
    cases this
  | case3 state c d rest hpair ih =>
    rw [List.cons_append, List.cons_append, scan_pair hpair, ih]
    · exact withFront_append.symm
    · intro e he
      exact h e (by simp [List.getLast?_cons, Option.mem_def.mp he])
  | case4 state c d rest hpair ih =>
    rw [List.cons_append, scan_one (s := d :: rest ++ t) (by simpa using hpair), ih]
    · exact withFront_append.symm
    · intro e he
      exact h e (by rwa [List.getLast?_cons_cons])

lemma stateAfter_append (h : IsCut state s t) :
    stateAfter state (s ++ t) = stateAfter (stateAfter state s) t := by
  rw [stateAfter, scan_append h]
  rfl

lemma map_fst_roles (state : MaskState) (s : List Char) : (roles state s).map Prod.fst = s := by
  unfold roles
  fun_induction scan state s with
  | case1 => rfl
  | case2 => rfl
  | case3 state c d rest hpair ih => simpa [withFront] using ih
  | case4 state c d rest hpair ih => simpa [withFront] using ih

end Scan

/-- How masking shows a character. -/
def shown : Char × Role → Char
  | (c, .code) => c
  | (c, _) => blankOut c

section Mask

variable {state : MaskState} {c : Char} {s t : List Char}

lemma maskFrom_pair {d : Char} (h : isPair state c d = true) (s : List Char) :
    maskFrom state (c :: d :: s) = shown (c, (readPair state d).1) ::
      shown (d, (readPair state d).1) :: maskFrom (readPair state d).2 s := by
  cases state with
  | code =>
    simp only [isPair, Bool.and_eq_true, Bool.or_eq_true, beq_iff_eq] at h
    obtain ⟨rfl, rfl | rfl⟩ := h <;> rfl
  | lineComment => cases h
  | blockComment =>
    simp only [isPair, Bool.and_eq_true, beq_iff_eq] at h
    obtain ⟨rfl, rfl⟩ := h
    rfl
  | literal quote =>
    obtain rfl := beq_iff_eq.mp h
    rfl

lemma maskFrom_one (h : ∀ d ∈ s.head?, isPair state c d = false) :
    maskFrom state (c :: s) = shown (c, (readOne state c).1) :: maskFrom (readOne state c).2 s := by
  cases state with
  | code =>
    rw [maskFrom]
    · rfl
    · rintro rest rfl rfl
      exact absurd (h '/' rfl) (by decide)
    · rintro rest rfl rfl
      exact absurd (h '*' rfl) (by decide)
  | lineComment =>
    by_cases hc : (c == '\n') = true
    · rw [beq_iff_eq.mp hc]
      rfl
    · simp [maskFrom, readOne, shown, hc]
  | blockComment =>
    rw [maskFrom]
    · rfl
    · rintro rest rfl rfl
      exact absurd (h '/' rfl) (by decide)
  | literal quote =>
    by_cases hc : c = '\\'
    · -- a backslash that escapes nothing ends the text
      cases s with
      | nil =>
        rw [hc]
        rfl
      | cons d rest =>
        have hpair := h d rfl
        rw [hc] at hpair
        cases hpair
    · rw [maskFrom]
      · have hself : (c == '\\') = false := beq_eq_false_iff_ne.mpr hc
        simp only [readOne, hself]
        split_ifs <;> simp_all [shown, blankOut]
      · rintro d rest rfl
        exact absurd rfl hc

theorem maskFrom_eq_map_shown (state : MaskState) (s : List Char) :
    maskFrom state s = (roles state s).map shown := by
  unfold roles
  fun_induction scan state s with
  | case1 state => cases state <;> rfl
  | case2 state c =>
    rw [maskFrom_one (by simp)]
    cases (readOne state c).2 <;> rfl
  | case3 state c d rest hpair ih =>
    rw [maskFrom_pair hpair, ih]
    rfl
  | case4 state c d rest hpair ih =>
    rw [maskFrom_one (by simpa using hpair), ih]
    rfl

lemma maskFrom_append (h : IsCut state s t) :
    maskFrom state (s ++ t) = maskFrom state s ++ maskFrom (stateAfter state s) t := by
  simp only [maskFrom_eq_map_shown, roles, scan_append h]
  exact List.map_append

end Mask

end Autograder.Proofs
