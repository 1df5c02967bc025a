import Autograder.Proofs.Check.Roles

/-!
# Findings in ill nested pseudocode

After an unexpected closer the check goes on as if that line were not there, and what stays open at
the end is reported by the line of its header. So the lines that the findings blame are the ones
that spoil the nesting: without them the constructs are well nested.
-/

namespace Autograder.Proofs

open Autograder.Check Autograder.Check.Pseint Autograder.Text

/-- A construct is closed that is not the innermost open one. -/
def isUnexpected : Cause → Bool
  | .nothingOpen _ | .wrongCloser _ _ _ => true
  | _ => false

/-- The line on which the construct was opened that a finding calls unclosed. -/
def unclosedAt? (finding : Finding) : Option Nat :=
  match finding.cause with
  | .unclosed _ openedAt => some openedAt
  | _ => none

/-- The lines of the findings with such a cause. -/
def linesWith (select : Cause → Bool) (findings : List Finding) : List Nat :=
  (findings.filter fun finding => select finding.cause).map Finding.line

/-- The lines that findings about the nesting point to: unexpected closers, and headers of
constructs that are never closed. -/
def blamedLines (findings : List Finding) : List Nat :=
  linesWith isUnexpected findings ++ findings.filterMap unclosedAt?

/-- Whatever is wrong has nothing to do with the nesting. -/
def IsApart (cause : Option Cause) : Prop :=
  ∀ c ∈ cause, isUnexpected c = false ∧ ∀ construct openedAt, c ≠ .unclosed construct openedAt

/-- What a line does to the open constructs, and what is wrong with it as far as they go. -/
inductive Moves (line : Nat) :
    List (Construct × Nat) → LineForm → List (Construct × Nat) → Option Cause → Prop where
  | opens {opened : List (Construct × Nat)} {construct : Construct} {wellFormed : Bool}
      {cause : Option Cause} (apart : IsApart cause) :
      Moves line opened (.header construct wellFormed) ((construct, line) :: opened) cause
  | closes {construct : Construct} {openedAt : Nat} {outer : List (Construct × Nat)} :
      Moves line ((construct, openedAt) :: outer) (.closer (some construct)) outer none
  | refused {opened : List (Construct × Nat)} {construct : Construct} {cause : Cause}
      (unexpected : isUnexpected cause = true)
      (wrong : ∀ openedAt outer, opened ≠ (construct, openedAt) :: outer) :
      Moves line opened (.closer (some construct)) opened (some cause)
  | passes {opened : List (Construct × Nat)} {form : LineForm} {cause : Option Cause}
      (plain : bracketOf form = none) (apart : IsApart cause) : Moves line opened form opened cause

section Step

lemma isApart_none : IsApart none := by
  intro c hc
  cases hc

lemma isApart_some {cause : Cause} (hexpected : isUnexpected cause = false)
    (hclosed : ∀ construct openedAt, cause ≠ .unclosed construct openedAt) :
    IsApart (some cause) := by
  intro c hc
  obtain rfl := Option.mem_some_iff.mp hc
  exact ⟨hexpected, hclosed⟩

lemma not_unexpected_of_isApart {cause : Option Cause} (h : IsApart cause) :
    ¬ ∃ c ∈ cause, isUnexpected c = true := by
  rintro ⟨c, hc, hunexpected⟩
  rw [(h c hc).1] at hunexpected
  cases hunexpected

lemma isApart_ite {p : Prop} [Decidable p] {cause : Cause} (h : IsApart (some cause)) :
    IsApart (if p then none else some cause) := by
  split_ifs
  · exact isApart_none
  · exact h

lemma moves_step (scope : Scope) (line : Nat) (form : LineForm) :
    Moves line scope.opened form (scope.step line form).1.opened (scope.step line form).2 := by
  cases form with
  | closer construct =>
    cases construct with
    | none => exact .passes rfl isApart_none
    | some construct =>
      simp only [Scope.step, Scope.close]
      cases hopened : scope.opened with
      | nil => simpa [hopened] using Moves.refused (by rfl) (by simp)
      | cons innermost outer =>
        obtain ⟨other, openedAt⟩ := innermost
        by_cases heq : other = construct
        · subst heq
          simpa using Moves.closes
        · simpa [heq, hopened] using Moves.refused (by rfl) (by simp [heq])
  | separator => exact .passes rfl isApart_none
  | definition names =>
    cases names with
    | none => exact .passes rfl (isApart_some rfl (by simp))
    | some names => exact .passes rfl isApart_none
  | header construct wellFormed =>
    refine .opens (isApart_ite ?_)
    cases construct <;> exact isApart_some rfl (by simp [Scope.headerCause])
  | assignment name => exact .passes rfl (isApart_ite (isApart_some rfl (by simp)))
  | statement terminated =>
    refine .passes rfl ?_
    simp only [Scope.step]
    split_ifs
    · exact isApart_some rfl (by simp)
    · exact isApart_none

lemma unclosedAt?_of_moves {line : Nat} {opened opened' : List (Construct × Nat)} {form : LineForm}
    {cause : Option Cause} (h : Moves line opened form opened' cause) :
    ∀ c ∈ cause, unclosedAt? ⟨line, c⟩ = none := by
  have hnone {c : Cause} (hc : ∀ construct openedAt, c ≠ .unclosed construct openedAt) :
      unclosedAt? ⟨line, c⟩ = none := by
    unfold unclosedAt?
    split
    · next construct openedAt heq => exact absurd heq (hc construct openedAt)
    · rfl
  cases h with
  | opens apart | passes _ apart => exact fun c hc => hnone (apart c hc).2
  | closes => simp
  | refused unexpected =>
    intro c hc
    obtain rfl := Option.mem_some_iff.mp hc
    refine hnone fun construct openedAt heq => ?_
    rw [heq] at unexpected
    cases unexpected

end Step

section Run

variable {scope : Scope} {form : LineForm} {line : Nat} {rest forms : List (LineForm × Nat)}

lemma run_cons (scope : Scope) (form : LineForm) (line : Nat) (rest : List (LineForm × Nat)) :
    scope.run ((form, line) :: rest) = (((scope.step line form).1.run rest).1,
      ((scope.step line form).2.map (Finding.mk line)).toList ++
        ((scope.step line form).1.run rest).2) :=
  rfl

lemma sublist_lines_run (scope : Scope) (forms : List (LineForm × Nat)) :
    ((scope.run forms).2.map Finding.line).Sublist (forms.map Prod.snd) := by
  induction forms generalizing scope with
  | nil => exact List.Sublist.slnil
  | cons numbered rest ih =>
    obtain ⟨form, line⟩ := numbered
    rw [run_cons, List.map_append, List.map_cons]
    cases (scope.step line form).2 with
    | none => exact (ih _).cons line
    | some cause => exact (ih _).cons_cons line

lemma unclosedAt?_run (scope : Scope) (forms : List (LineForm × Nat)) :
    (scope.run forms).2.filterMap unclosedAt? = [] := by
  induction forms generalizing scope with
  | nil => rfl
  | cons numbered rest ih =>
    obtain ⟨form, line⟩ := numbered
    have hnone := unclosedAt?_of_moves (moves_step scope line form)
    rw [run_cons, List.filterMap_append, ih, List.append_nil]
    cases hcause : (scope.step line form).2 with
    | none => rfl
    | some cause => simp [hnone cause (by simp [hcause])]

lemma sublist_opened_of_moves {opened opened' : List (Construct × Nat)} {cause : Option Cause}
    (h : Moves line opened form opened' cause) :
    (opened'.reverse.map Prod.snd).Sublist (opened.reverse.map Prod.snd ++ [line]) := by
  cases h with
  | opens | closes | refused | passes => simp

/-- The constructs that are open behind a run were open in front of it or are opened in it, and stay
in order. -/
lemma sublist_opened_run (scope : Scope) (forms : List (LineForm × Nat)) :
    ((scope.run forms).1.opened.reverse.map Prod.snd).Sublist
      (scope.opened.reverse.map Prod.snd ++ forms.map Prod.snd) := by
  induction forms generalizing scope with
  | nil => simp [Scope.run]
  | cons numbered rest ih =>
    obtain ⟨form, line⟩ := numbered
    have hstep := sublist_opened_of_moves (moves_step scope line form)
    have hrest := (ih (scope.step line form).1).trans (hstep.append_right _)
    rwa [List.append_assoc, List.singleton_append] at hrest

lemma mem_opened_of_moves {opened opened' : List (Construct × Nat)} {cause : Option Cause}
    {p : Construct × Nat} (h : Moves line opened form opened' cause) (hp : p ∈ opened') :
    p ∈ opened ∨ ∃ wellFormed, (form, line) = (.header p.1 wellFormed, p.2) := by
  cases h with
  | @opens _ _ wellFormed =>
    rcases List.mem_cons.mp hp with rfl | hp
    · exact .inr ⟨wellFormed, rfl⟩
    · exact .inl hp
  | closes => exact .inl (List.mem_cons_of_mem _ hp)
  | refused | passes => exact .inl hp

lemma mem_opened_run {p : Construct × Nat} (h : p ∈ (scope.run forms).1.opened) :
    p ∈ scope.opened ∨ ∃ wellFormed, (.header p.1 wellFormed, p.2) ∈ forms := by
  induction forms generalizing scope with
  | nil => exact .inl h
  | cons numbered rest ih =>
    obtain ⟨form, line⟩ := numbered
    rcases ih h with hopened | ⟨wellFormed, hheader⟩
    · refine (mem_opened_of_moves (moves_step scope line form) hopened).imp_right ?_
      rintro ⟨wellFormed, heq⟩
      exact ⟨wellFormed, heq ▸ List.mem_cons_self⟩
    · exact .inr ⟨wellFormed, List.mem_cons_of_mem _ hheader⟩

end Run

section Lines

variable {scope : Scope} {form : LineForm} {line : Nat} {rest forms : List (LineForm × Nat)}
  {select : Cause → Bool}

lemma linesWith_append (findings others : List Finding) :
    linesWith select (findings ++ others) =
      linesWith select findings ++ linesWith select others := by
  simp [linesWith]

lemma linesWith_cause {cause : Option Cause} {n : Nat} :
    n ∈ linesWith select (cause.map (Finding.mk line)).toList ↔
      n = line ∧ ∃ c ∈ cause, select c = true := by
  cases cause with
  | none => simp [linesWith]
  | some c => by_cases hc : select c = true <;> simp [linesWith, hc]

lemma mem_of_mem_linesWith_run {n : Nat} (h : n ∈ linesWith select (scope.run forms).2) :
    n ∈ forms.map Prod.snd := by
  obtain ⟨finding, hfinding, rfl⟩ := List.mem_map.mp h
  exact (sublist_lines_run scope forms).subset
    (List.mem_map_of_mem (List.mem_of_mem_filter hfinding))

lemma mem_linesWith_run_head (h : ∀ n ∈ rest.map Prod.snd, line < n) :
    line ∈ linesWith select (scope.run ((form, line) :: rest)).2 ↔
      ∃ c ∈ (scope.step line form).2, select c = true := by
  rw [run_cons, linesWith_append, List.mem_append, linesWith_cause]
  constructor
  · rintro (⟨-, hcause⟩ | hrest)
    · exact hcause
    · exact absurd (h line (mem_of_mem_linesWith_run hrest)) (lt_irrefl line)
  · exact fun hcause => .inl ⟨rfl, hcause⟩

lemma mem_linesWith_run_tail {n : Nat} (h : line < n) :
    n ∈ linesWith select (scope.run ((form, line) :: rest)).2 ↔
      n ∈ linesWith select ((scope.step line form).1.run rest).2 := by
  rw [run_cons, linesWith_append, List.mem_append, linesWith_cause, or_iff_right]
  rintro ⟨rfl, -⟩
  exact absurd h (lt_irrefl n)

end Lines

/-- The line, unless it is reported as unexpected. -/
def heededLine (form : LineForm) (line : Nat) (cause : Option Cause) : List (LineForm × Nat) :=
  if ∃ c ∈ cause, isUnexpected c = true then [] else [(form, line)]

/-- The lines of a run that are not reported as unexpected. -/
def heeded (scope : Scope) (forms : List (LineForm × Nat)) : List (LineForm × Nat) :=
  forms.filter fun p => p.2 ∉ linesWith isUnexpected (scope.run forms).2

/-- The lines without those with the given numbers, as far as the nesting goes. -/
def bracketsWithout (numbers : List Nat) (lines : List (LineForm × Nat)) : List Bracket :=
  brackets ((lines.filter fun p => p.2 ∉ numbers).map Prod.fst)

/-- The open constructs, without those opened on lines with the given numbers. -/
def openedWithout (numbers : List Nat) (opened : List (Construct × Nat)) : List Construct :=
  (opened.filter fun p => p.2 ∉ numbers).map Prod.fst

section Nesting

variable {scope : Scope} {form : LineForm} {line : Nat} {opened opened' : List (Construct × Nat)}
  {cause : Option Cause} {rest forms : List (LineForm × Nat)} {numbers : List Nat}

lemma heededLine_of_isApart (h : IsApart cause) : heededLine form line cause = [(form, line)] :=
  if_neg (not_unexpected_of_isApart h)

lemma heededLine_of_unexpected {cause : Cause} (h : isUnexpected cause = true) :
    heededLine form line (some cause) = [] :=
  if_pos ⟨cause, rfl, h⟩

lemma bracketsWithout_append (u v : List (LineForm × Nat)) :
    bracketsWithout numbers (u ++ v) = bracketsWithout numbers u ++ bracketsWithout numbers v := by
  simp [bracketsWithout, brackets]

lemma heeded_cons (h : ∀ n ∈ rest.map Prod.snd, line < n) : heeded scope ((form, line) :: rest) =
    heededLine form line (scope.step line form).2 ++ heeded (scope.step line form).1 rest := by
  have htail : rest.filter (fun p => decide (p.2 ∉ linesWith isUnexpected
      (scope.run ((form, line) :: rest)).2)) = heeded (scope.step line form).1 rest := by
    refine List.filter_congr fun p hp => decide_eq_decide.mpr ?_
    exact (mem_linesWith_run_tail (h p.2 (List.mem_map_of_mem hp))).not
  rw [heeded, List.filter_cons, htail, heededLine]
  simp only [mem_linesWith_run_head h, decide_not, Bool.not_eq_true', decide_eq_false_iff_not]
  split_ifs <;> rfl

/-- What remains open of the constructs, if some of them were never opened and are never closed. -/
lemma nest_of_moves (h : Moves line opened form opened' cause)
    (hopened : (opened.reverse.map Prod.snd ++ [line]).Pairwise (· < ·))
    (hnumbers : ∀ n ∈ numbers, n ∈ opened'.map Prod.snd ∨ line < n) :
    nest (openedWithout numbers opened) (bracketsWithout numbers (heededLine form line cause)) =
      some (openedWithout numbers opened') := by
  cases h with
  | @opens _ construct _ _ apart =>
    rw [heededLine_of_isApart apart]
    by_cases hline : line ∈ numbers <;>
      simp [bracketsWithout, openedWithout, brackets, bracketOf, nest, hline]
  | @closes construct openedAt =>
    rw [heededLine_of_isApart isApart_none]
    simp only [List.reverse_cons, List.map_append, List.map_cons, List.map_nil, List.append_assoc,
      List.singleton_append, List.pairwise_append, List.pairwise_cons, List.mem_cons,
      List.not_mem_nil, or_false, forall_eq_or_imp, forall_eq] at hopened
    obtain ⟨-, ⟨hbelow, -⟩, habove⟩ := hopened
    -- neither the header nor the closer is among the lines that stay open
    have houter {n : Nat} (hn : n ∈ opened'.map Prod.snd) : n < openedAt ∧ n < line :=
      habove n (by simpa using hn)
    have hheader : openedAt ∉ numbers := fun hmem => by
      rcases hnumbers openedAt hmem with hmem | hlater
      · exact absurd (houter hmem).1 (lt_irrefl openedAt)
      · omega
    have hcloser : line ∉ numbers := fun hmem => by
      rcases hnumbers line hmem with hmem | hlater
      · exact absurd (houter hmem).2 (lt_irrefl line)
      · omega
    simp [bracketsWithout, openedWithout, brackets, bracketOf, nest, hheader, hcloser]
  | refused unexpected =>
    rw [heededLine_of_unexpected unexpected]
    rfl
  | passes plain apart =>
    rw [heededLine_of_isApart apart]
    by_cases hline : line ∈ numbers <;>
      simp [bracketsWithout, brackets, plain, nest, hline]

/-- Without the unexpected closers, and without some constructs that stay open, the lines are read
without getting stuck, and leave the others open that the check leaves open. -/
theorem nest_heeded (scope : Scope) (forms : List (LineForm × Nat)) (numbers : List Nat)
    (h : (scope.opened.reverse.map Prod.snd ++ forms.map Prod.snd).Pairwise (· < ·))
    (hnumbers : ∀ n ∈ numbers, n ∈ (scope.run forms).1.opened.map Prod.snd) :
    nest (openedWithout numbers scope.opened) (bracketsWithout numbers (heeded scope forms)) =
      some (openedWithout numbers (scope.run forms).1.opened) := by
  induction forms generalizing scope with
  | nil => rfl
  | cons numbered rest ih =>
    obtain ⟨form, line⟩ := numbered
    have hmoves := moves_step scope line form
    have hsplit : (scope.opened.reverse.map Prod.snd ++ [line] ++ rest.map Prod.snd).Pairwise
        (· < ·) := by simpa using h
    have hline : ∀ n ∈ rest.map Prod.snd, line < n :=
      fun n hn => (List.pairwise_append.mp hsplit).2.2 line (by simp) n hn
    have hnext := hsplit.sublist ((sublist_opened_of_moves hmoves).append_right _)
    -- what is left open at the end is open behind this line, or is opened further down
    have hlater : ∀ n ∈ numbers, n ∈ (scope.step line form).1.opened.map Prod.snd ∨ line < n := by
      intro n hn
      have hmem := (sublist_opened_run (scope.step line form).1 rest).subset
        (by simpa [run_cons] using hnumbers n hn)
      rw [List.mem_append] at hmem
      exact hmem.imp (fun hmem => by simpa using hmem) (hline n)
    rw [heeded_cons hline, bracketsWithout_append, nest_append,
      nest_of_moves hmoves (List.pairwise_append.mp hsplit).1 hlater, Option.bind_some]
    exact ih _ hnext hnumbers

lemma of_nest_of_moves {after : List Construct} (h : Moves line opened form opened' cause)
    (hnest : nest (opened.map Prod.fst) (brackets [form]) = some after) :
    opened'.map Prod.fst = after ∧ ¬ ∃ c ∈ cause, isUnexpected c = true := by
  cases h with
  | opens apart => exact ⟨Option.some.inj hnest, not_unexpected_of_isApart apart⟩
  | closes =>
    simp only [brackets, List.filterMap_cons, bracketOf, Option.map_some, List.filterMap_nil,
      nest_closing_eq_some, List.map_cons, List.cons.injEq, true_and] at hnest
    exact ⟨hnest, by simp⟩
  | refused _ wrong =>
    simp only [brackets, List.filterMap_cons, bracketOf, Option.map_some, List.filterMap_nil,
      nest_closing_eq_some] at hnest
    obtain ⟨⟨_, openedAt⟩, outer, rfl, rfl, -⟩ := List.map_eq_cons_iff.mp hnest
    exact absurd rfl (wrong openedAt outer)
  | passes plain apart =>
    simp only [brackets, List.filterMap_cons, plain, List.filterMap_nil, nest,
      Option.some.injEq] at hnest
    exact ⟨hnest, not_unexpected_of_isApart apart⟩

/-- If the lines are read without getting stuck, no closer is unexpected. -/
theorem run_of_nest (scope : Scope) {after : List Construct}
    (h : nest (scope.opened.map Prod.fst) (brackets (forms.map Prod.fst)) = some after) :
    (scope.run forms).1.opened.map Prod.fst = after ∧
      linesWith isUnexpected (scope.run forms).2 = [] := by
  induction forms generalizing scope with
  | nil => exact ⟨Option.some.inj h, rfl⟩
  | cons numbered rest ih =>
    obtain ⟨form, line⟩ := numbered
    have hsplit : brackets (form :: rest.map Prod.fst) =
        brackets [form] ++ brackets (rest.map Prod.fst) := by
      rw [← List.singleton_append, brackets, List.filterMap_append, ← brackets, ← brackets]
    rw [List.map_cons, hsplit, nest_append] at h
    obtain ⟨mid, hmid, hrest⟩ := Option.bind_eq_some_iff.mp h
    obtain ⟨rfl, hexpected⟩ := of_nest_of_moves (moves_step scope line form) hmid
    obtain ⟨hopened, hnone⟩ := ih _ hrest
    refine ⟨hopened, ?_⟩
    rw [run_cons, linesWith_append, hnone, List.append_nil, List.eq_nil_iff_forall_not_mem]
    exact fun n hn => hexpected (linesWith_cause.mp hn).2

end Nesting

def isOpening : Bracket → Bool
  | .opening _ => true
  | .closing _ => false

/-- The line is the header of a construct. -/
def opensBlock : LineForm → Bool
  | .header _ _ => true
  | _ => false

/-- The line is a closer of a construct that the check knows. -/
def closesBlock : LineForm → Bool
  | .closer construct => construct.isSome
  | _ => false

section Count

variable {scope : Scope} {forms : List (LineForm × Nat)}

lemma length_of_nest {stack after : List Construct} {word : List Bracket}
    (h : nest stack word = some after) :
    stack.length + word.countP isOpening = after.length + word.countP (!isOpening ·) := by
  induction word generalizing stack with
  | nil =>
    obtain rfl : stack = after := Option.some.inj h
    rfl
  | cons bracket rest ih =>
    cases bracket with
    | opening construct =>
      have := ih h
      rw [List.countP_cons_of_pos rfl, List.countP_cons_of_neg (by simp [isOpening])]
      rw [List.length_cons] at this
      omega
    | closing construct =>
      rw [← List.singleton_append, nest_append] at h
      obtain ⟨outer, houter, hrest⟩ := Option.bind_eq_some_iff.mp h
      obtain rfl := nest_closing_eq_some.mp houter
      have := ih hrest
      rw [List.countP_cons_of_neg (by simp [isOpening]), List.countP_cons_of_pos rfl,
        List.length_cons]
      omega

lemma countP_brackets (forms : List LineForm) :
    (brackets forms).countP isOpening = forms.countP opensBlock ∧
      (brackets forms).countP (!isOpening ·) = forms.countP closesBlock := by
  simp only [brackets, List.countP_filterMap]
  constructor <;>
    · refine List.countP_congr fun form _ => ?_
      cases form with
      | closer construct => cases construct <;> simp [bracketOf, isOpening, opensBlock, closesBlock]
      | _ => simp [bracketOf, isOpening, opensBlock, closesBlock]

lemma exists_scope_of_mem (scope : Scope) {p : LineForm × Nat}
    (h : (forms.map Prod.snd).Pairwise (· < ·)) (hp : p ∈ forms) :
    ∃ above : Scope, ∀ select : Cause → Bool,
      p.2 ∈ linesWith select (scope.run forms).2 ↔
        ∃ c ∈ (above.step p.2 p.1).2, select c = true := by
  induction forms generalizing scope with
  | nil => cases hp
  | cons numbered rest ih =>
    obtain ⟨form, line⟩ := numbered
    obtain ⟨hline, hrest⟩ := List.pairwise_cons.mp h
    rcases List.mem_cons.mp hp with rfl | hp
    · exact ⟨scope, fun select => mem_linesWith_run_head hline⟩
    · obtain ⟨above, habove⟩ := ih (scope.step line form).1 hrest hp
      refine ⟨above, fun select => ?_⟩
      rw [mem_linesWith_run_tail (hline p.2 (List.mem_map_of_mem hp)), habove]

/-- Headers are never unexpected, and of closers nothing else can be said. -/
lemma mem_linesWith_run (scope : Scope) {p : LineForm × Nat}
    (h : (forms.map Prod.snd).Pairwise (· < ·)) (hp : p ∈ forms) :
    (opensBlock p.1 = true → p.2 ∉ linesWith isUnexpected (scope.run forms).2) ∧
      (closesBlock p.1 = true → (p.2 ∈ linesWith isUnexpected (scope.run forms).2 ↔
        p.2 ∈ (scope.run forms).2.map Finding.line)) := by
  have hall : (scope.run forms).2.map Finding.line =
      linesWith (fun _ => true) (scope.run forms).2 := by
    simp [linesWith]
  obtain ⟨above, habove⟩ := exists_scope_of_mem scope h hp
  rw [hall, habove, habove]
  have hmoves := moves_step above p.2 p.1
  generalize (above.step p.2 p.1).1.opened = opened' at hmoves
  generalize (above.step p.2 p.1).2 = cause at hmoves ⊢
  generalize above.opened = opened at hmoves
  generalize p.1 = form at hmoves ⊢
  cases hmoves with
  | opens apart => exact ⟨fun _ => not_unexpected_of_isApart apart, by simp [closesBlock]⟩
  | closes => simp [opensBlock]
  | refused unexpected => simp [opensBlock, unexpected]
  | passes plain =>
    cases form with
    | closer construct => cases construct <;> simp_all [bracketOf, opensBlock, closesBlock]
    | _ => simp_all [bracketOf, opensBlock, closesBlock]

/-- Every header is left open or has a closer that nothing is said of. -/
theorem countP_opensBlock (h : (forms.map Prod.snd).Pairwise (· < ·)) :
    forms.countP (opensBlock ·.1) = (Scope.run {} forms).1.opened.length +
      forms.countP fun p => closesBlock p.1 && p.2 ∉ (Scope.run {} forms).2.map Finding.line := by
  have hnest := nest_heeded {} forms [] (by simpa using h) (by simp)
  have hlength := length_of_nest hnest
  have hempty (lines : List (LineForm × Nat)) :
      bracketsWithout [] lines = brackets (lines.map Prod.fst) := by
    simp [bracketsWithout]
  rw [hempty, (countP_brackets _).1, (countP_brackets _).2, List.countP_map, List.countP_map,
    heeded, List.countP_filter, List.countP_filter] at hlength
  have hopens : forms.countP (fun p => opensBlock p.1 &&
      decide (p.2 ∉ linesWith isUnexpected (Scope.run {} forms).2)) =
        forms.countP (opensBlock ·.1) := by
    refine List.countP_congr fun p hp => ?_
    have := (mem_linesWith_run {} h hp).1
    simpa using this
  have hcloses : forms.countP (fun p => closesBlock p.1 &&
      decide (p.2 ∉ linesWith isUnexpected (Scope.run {} forms).2)) =
        forms.countP fun p => closesBlock p.1 && p.2 ∉ (Scope.run {} forms).2.map Finding.line := by
    refine List.countP_congr fun p hp => ?_
    simp only [Bool.and_eq_true, decide_eq_true_eq]
    exact and_congr_right fun hcloses => ((mem_linesWith_run {} h hp).2 hcloses).not
  simp only [Function.comp_apply] at hlength
  rw [hopens, hcloses] at hlength
  simpa [openedWithout] using hlength

end Count

/-- The text with the rows of the given numbers emptied. -/
def emptyRows (numbers : List Nat) (code : List Char) : List Char :=
  joinRows (((segments code).zipIdx 1).map fun p => if p.2 ∈ numbers then [] else p.1)

section Text

lemma zipIdx_map_zipIdx {α β : Type} (f : α → Nat → β) (items : List α) (first : Nat) :
    ((items.zipIdx first).map fun p => f p.1 p.2).zipIdx first =
      (items.zipIdx first).map fun p => (f p.1 p.2, p.2) := by
  induction items generalizing first with
  | nil => rfl
  | cons item rest ih => simp [ih]

lemma segments_emptyRows (numbers : List Nat) (code : List Char) :
    segments (emptyRows numbers code) =
      ((segments code).zipIdx 1).map fun p => if p.2 ∈ numbers then [] else p.1 := by
  refine segments_joinRows ?_ ?_
  · rw [ne_eq, List.map_eq_nil_iff, List.zipIdx_eq_nil_iff]
    exact splitAt_ne_nil _ code
  · intro row hrow
    obtain ⟨p, hp, rfl⟩ := List.mem_map.mp hrow
    have hmem := List.fst_mem_of_mem_zipIdx hp
    split_ifs
    · simp
    · exact newline_notMem_of_mem_segments hmem

/-- Lines that are emptied are passed over, and the others keep their numbers. -/
theorem numberedForms_emptyRows (numbers : List Nat) (code : List Char) :
    numberedForms (emptyRows numbers code) =
      (numberedForms code).filter fun p => p.2 ∉ numbers := by
  have hempty : statementOf [] = [] := rfl
  have hrows := zipIdx_map_zipIdx
    (fun row n => statementOf (if n ∈ numbers then [] else row)) (segments code) 1
  rw [numberedForms_eq_segments, numberedForms_eq_segments, segments_emptyRows, List.map_map,
    Function.comp_def, hrows, List.filterMap_map, List.filter_filterMap, List.zipIdx_map,
    List.filterMap_map]
  refine List.filterMap_congr fun p _ => ?_
  by_cases hrow : statementOf p.1 = [] <;> by_cases hmem : p.2 ∈ numbers <;>
    simp [hrow, hmem, hempty, Option.filter]

lemma sublist_numbers (code : List Char) :
    ((numberedForms code).map Prod.snd).Sublist (List.range' 1 (lines code).length) := by
  rw [numberedForms_eq_map, List.map_map, Function.comp_def, ← List.length_map (f := statementOf),
    ← List.zipIdx_map_snd 1 ((lines code).map statementOf)]
  exact List.filter_sublist.map Prod.snd

lemma pairwise_numbers (code : List Char) :
    ((numberedForms code).map Prod.snd).Pairwise (· < ·) :=
  List.Pairwise.sublist (sublist_numbers code) List.pairwise_lt_range'

end Text

def IsHeader (line : List Char) : Prop :=
  ∃ construct, IsHeaderOf construct line

def IsCloser (line : List Char) : Prop :=
  ∃ construct, IsCloserOf construct line

section Statements

variable {line : List Char}

lemma opensBlock_classify_iff : opensBlock (classify line) = true ↔ IsHeader line := by
  constructor
  · intro h
    have htaken := isTakenFor_classify line
    generalize classify line = form at h htaken
    cases htaken with
    | header hheader => exact ⟨_, hheader⟩
    | closer | longCloser | separator | definition | assignment | other => cases h
  · rintro ⟨construct, hheader⟩
    rw [classify_of_opening hheader]
    rfl

lemma closesBlock_classify_iff : closesBlock (classify line) = true ↔ IsCloser line := by
  constructor
  · intro h
    have htaken := isTakenFor_classify line
    generalize classify line = form at h htaken
    cases htaken with
    | closer hcloser => exact ⟨_, hcloser⟩
    | header | longCloser | separator | definition | assignment | other => cases h
  · rintro ⟨construct, hcloser⟩
    rw [classify_of_isCloserOf hcloser]
    rfl

instance : DecidablePred IsHeader := fun _ => decidable_of_iff _ opensBlock_classify_iff

instance : DecidablePred IsCloser := fun _ => decidable_of_iff _ closesBlock_classify_iff

lemma countP_isHeader (code : List Char) :
    (numberedStatements code).countP (fun p => IsHeader p.1) =
      (numberedForms code).countP (opensBlock ·.1) := by
  rw [numberedForms_eq_map, List.countP_map]
  exact List.countP_congr fun p _ => by simp [opensBlock_classify_iff]

lemma countP_isCloser (code : List Char) (numbers : List Nat) :
    (numberedStatements code).countP (fun p => IsCloser p.1 ∧ p.2 ∉ numbers) =
      (numberedForms code).countP fun p => closesBlock p.1 && p.2 ∉ numbers := by
  rw [numberedForms_eq_map, List.countP_map]
  exact List.countP_congr fun p _ => by simp [closesBlock_classify_iff]

end Statements

/-- What the findings in a text tell, in a part for single lines and one for the constructs that are
left open at the end. -/
structure IsReport (code : List Char) (onLines : List Finding) (leftOpen : List (Construct × Nat)) :
    Prop where
  findings : Pseint.check code =
    onLines ++ leftOpen.map fun p => ⟨0, .unclosed p.1 p.2⟩
  ordered : (onLines.map Finding.line).Pairwise (· < ·)
  numbered : ∀ finding ∈ onLines, 1 ≤ finding.line ∧ finding.line ≤ (lines code).length
  opened : (leftOpen.map Prod.snd).Pairwise (· < ·)
  headers : ∀ p ∈ leftOpen, ∃ line, (line, p.2) ∈ numberedStatements code ∧ IsHeaderOf p.1 line
  /-- Lines with an unexpected closer apart, the text opens and closes its constructs in order, and
  leaves just these open. -/
  nesting : ∃ word, HasBrackets (((numberedStatements code).filter fun p =>
      p.2 ∉ linesWith isUnexpected onLines).map Prod.fst) word ∧
    nest [] word = some (leftOpen.reverse.map Prod.fst)
  balanced : (numberedStatements code).countP (fun p => IsHeader p.1) = leftOpen.length +
    (numberedStatements code).countP fun p => IsCloser p.1 ∧ p.2 ∉ onLines.map Finding.line
  mended : ∀ finding ∈ Pseint.check (emptyRows (blamedLines (Pseint.check code)) code),
    isUnexpected finding.cause = false ∧
      ∀ construct openedAt, finding.cause ≠ .unclosed construct openedAt

section Report

variable {code : List Char}

lemma check_eq (code : List Char) : Pseint.check code =
    (Scope.run {} (numberedForms code)).2 ++
      (Scope.run {} (numberedForms code)).1.opened.reverse.map fun p => ⟨0, .unclosed p.1 p.2⟩ :=
  rfl

lemma blamedLines_check (code : List Char) : blamedLines (Pseint.check code) =
    linesWith isUnexpected (Scope.run {} (numberedForms code)).2 ++
      (Scope.run {} (numberedForms code)).1.opened.reverse.map Prod.snd := by
  have hunclosed (opened : List (Construct × Nat)) :
      linesWith isUnexpected (opened.map fun p => ⟨0, .unclosed p.1 p.2⟩) = [] ∧
        (opened.map fun p => Finding.mk 0 (.unclosed p.1 p.2)).filterMap unclosedAt? =
          opened.map Prod.snd := by
    constructor
    · rw [linesWith, List.map_eq_nil_iff, List.filter_eq_nil_iff]
      intro finding hfinding
      obtain ⟨p, -, rfl⟩ := List.mem_map.mp hfinding
      simp [isUnexpected]
    · simp [List.filterMap_map, Function.comp_def, unclosedAt?]
  rw [blamedLines, check_eq, linesWith_append, List.filterMap_append, unclosedAt?_run,
    (hunclosed _).1, (hunclosed _).2, List.append_nil, List.nil_append]

lemma of_blamedLines_eq_nil {findings : List Finding} (h : blamedLines findings = []) :
    ∀ finding ∈ findings, isUnexpected finding.cause = false ∧
      ∀ construct openedAt, finding.cause ≠ .unclosed construct openedAt := by
  obtain ⟨hunexpected, hunclosed⟩ := List.append_eq_nil_iff.mp h
  rw [linesWith, List.map_eq_nil_iff, List.filter_eq_nil_iff] at hunexpected
  rw [List.filterMap_eq_nil_iff] at hunclosed
  intro finding hfinding
  refine ⟨by simpa using hunexpected finding hfinding, fun construct openedAt hcause => ?_⟩
  have hnone := hunclosed finding hfinding
  rw [unclosedAt?, hcause] at hnone
  cases hnone

lemma check_emptyRows : ∀ finding ∈
    Pseint.check (emptyRows (blamedLines (Pseint.check code)) code),
    isUnexpected finding.cause = false ∧
      ∀ construct openedAt, finding.cause ≠ .unclosed construct openedAt := by
  have hforms : numberedForms (emptyRows (blamedLines (Pseint.check code)) code) =
      (heeded {} (numberedForms code)).filter fun p =>
        p.2 ∉ (Scope.run {} (numberedForms code)).1.opened.map Prod.snd := by
    rw [numberedForms_emptyRows, blamedLines_check, heeded, List.filter_filter]
    refine List.filter_congr fun p _ => ?_
    simp only [List.mem_append, List.map_reverse, List.mem_reverse, not_or, Bool.decide_and,
      Bool.and_comm]
  have hnest := nest_heeded {} (numberedForms code)
    ((Scope.run {} (numberedForms code)).1.opened.map Prod.snd)
    (by simpa using pairwise_numbers code) (fun n hn => hn)
  have hclosed : openedWithout ((Scope.run {} (numberedForms code)).1.opened.map Prod.snd)
      (Scope.run {} (numberedForms code)).1.opened = [] := by
    rw [openedWithout, List.map_eq_nil_iff, List.filter_eq_nil_iff]
    exact fun p hp => by simpa using ⟨p.1, hp⟩
  rw [hclosed, bracketsWithout, ← hforms] at hnest
  obtain ⟨hopened, hexpected⟩ := run_of_nest {} hnest
  have hblamed : blamedLines (Pseint.check (emptyRows (blamedLines (Pseint.check code)) code)) =
      [] := by
    rw [blamedLines_check, hexpected, List.map_eq_nil_iff.mp hopened]
    rfl
  exact fun finding hfinding => of_blamedLines_eq_nil hblamed finding hfinding

/-- The findings in any text: first those of single lines, at most one for each and in order, then
those for the constructs that are left open, in the order of their headers. -/
theorem exists_isReport (code : List Char) :
    ∃ onLines leftOpen, IsReport code onLines leftOpen := by
  have hnumbers := pairwise_numbers code
  have hopened := sublist_opened_run {} (numberedForms code)
  have hlines := sublist_lines_run {} (numberedForms code)
  refine ⟨(Scope.run {} (numberedForms code)).2,
    (Scope.run {} (numberedForms code)).1.opened.reverse, check_eq code, hnumbers.sublist hlines,
    ?_, hnumbers.sublist (by simpa using hopened), ?_, ?_, ?_, check_emptyRows⟩
  · intro finding hfinding
    have hmem := (hlines.trans (sublist_numbers code)).subset (List.mem_map_of_mem hfinding)
    obtain ⟨hfirst, hlast⟩ := List.mem_range'_1.mp hmem
    omega
  · intro p hp
    rcases mem_opened_run (List.mem_reverse.mp hp) with hnone | hheader
    · cases hnone
    · obtain ⟨wellFormed, hmem⟩ := hheader
      rw [numberedForms_eq_map] at hmem
      obtain ⟨⟨line, number⟩, hline, heq⟩ := List.mem_map.mp hmem
      obtain ⟨hform, rfl⟩ := Prod.mk.inj heq
      exact ⟨line, hline, isHeaderOf_of_classify hform⟩
  · have hnest := nest_heeded {} (numberedForms code) [] (by simpa using hnumbers)
      (by simp)
    exact ⟨_, hasBrackets_brackets _, by simpa [numberedForms_eq_map, List.filter_map,
      bracketsWithout, openedWithout, heeded, Function.comp_def] using hnest⟩
  · rw [List.length_reverse, countP_isHeader, countP_isCloser]
    exact countP_opensBlock hnumbers

end Report

end Autograder.Proofs
