import Autograder.Proofs.Check.Declarations
import Autograder.Proofs.Text.Spacing
import Autograder.Rubric.Derived

/-!
# Lines that yield a criterion

Each rule looks for lines of one shape. A line has the shape of at most one rule: behind its first
word and the blanks there, a declaration goes on with a name, an assignment with an equals sign, and
the other two with a parenthesis, which only `if` or only `for` can stand before. So the order in
which the rules are tried does not matter.
-/

namespace Autograder.Proofs

open Autograder.Text

/-- One character or more on one row. -/
def rowPart : Shape := fun s => s ≠ [] ∧ '\n' ∉ s

/-- Starts with anything but an equals sign, and then stays on its row. -/
def assignedPart : Shape := fun s => ∃ c rest, s = c :: rest ∧ c ≠ '=' ∧ '\n' ∉ rest

def without (c : Char) : Shape := fun s => c ∉ s

def anything : Shape := fun _ => True

/-- The lines that the rule has a criterion for. -/
def ruleShape : LineRule → Shape
  | .declaration => inOrder [fun s => ∃ type ∈ Check.C.typeNames, s = type.toList, gap,
      plainIdentifier, blanks, exactly "=", blanks, rowPart, blanks, exactly ";"]
  | .assignment => inOrder [plainIdentifier, blanks, exactly "=", blanks, assignedPart, blanks,
      exactly ";"]
  | .conditional => inOrder [exactly "if", blanks, exactly "(", rowPart, exactly ")", anything]
  | .loop => inOrder [exactly "for", blanks, exactly "(", without ';', exactly ";", without ';',
      exactly ";", without ')', exactly ")", anything]

/-- The criteria of a solution if the rules are tried in the given order. -/
def criteriaInOrder (order : List LineRule) (solution : List Char) : List Criterion :=
  let criteria := (lines solution).filterMap fun line =>
    order.findSome? fun rule => rule.criterion? (trim line)
  if criteria.isEmpty then Rubric.generalCriteria else criteria

section Parts

variable {s : List Char}

lemma inOrder_append (parts others : List Shape) : inOrder (parts ++ others) s ↔
    ∃ first rest, s = first ++ rest ∧ inOrder parts first ∧ inOrder others rest := by
  induction parts generalizing s with
  | nil =>
    constructor
    · exact fun h => ⟨[], s, rfl, rfl, h⟩
    · rintro ⟨_, rest, rfl, rfl, h⟩
      exact h
  | cons part parts ih =>
    constructor
    · rintro ⟨first, _, rfl, hpart, h⟩
      obtain ⟨second, rest, rfl, hparts, hothers⟩ := ih.mp h
      exact ⟨first ++ second, rest, by simp, ⟨first, second, rfl, hpart, hparts⟩, hothers⟩
    · rintro ⟨_, rest, rfl, ⟨first, second, rfl, hpart, hparts⟩, hothers⟩
      exact ⟨first, second ++ rest, by simp, hpart, ih.mpr ⟨second, rest, rfl, hparts, hothers⟩⟩

lemma padded_iff {shape : Shape} : inOrder [blanks, shape, blanks] s ↔
    ∃ before part after, s = before ++ (part ++ after) ∧ blanks before ∧ shape part ∧
      blanks after := by
  constructor
  · rintro ⟨before, _, rfl, hbefore, part, _, rfl, hpart, after, _, rfl, hafter, rfl⟩
    exact ⟨before, part, after, by rw [List.append_nil], hbefore, hpart, hafter⟩
  · rintro ⟨before, part, after, rfl, hbefore, hpart, hafter⟩
    exact ⟨before, _, rfl, hbefore, part, _, rfl, hpart, after, [], by rw [List.append_nil],
      hafter, rfl⟩

lemma all_ne_newline_iff : s.all (· != '\n') = true ↔ '\n' ∉ s := by
  rw [List.all_eq_true]
  exact ⟨fun h hmem => by simpa using h _ hmem,
    fun h c hc => bne_iff_ne.mpr (ne_of_mem_of_not_mem hc h)⟩

lemma mem_trimEnd_cons {c d : Char} (h : d ∈ trimEnd s) : d ∈ trimEnd (c :: s) := by
  have hne : (s.reverse.dropWhile isBlank).isEmpty = false := by
    cases hdrop : s.reverse.dropWhile isBlank with
    | nil => simp [trimEnd, hdrop] at h
    | cons => rfl
  rw [trimEnd, List.reverse_cons, List.dropWhile_append, hne]
  simpa [trimEnd] using Or.inr (List.mem_reverse.mp h)

lemma isValue_eq_true_iff :
    LineRule.isValue s = true ↔ inOrder [blanks, rowPart, blanks] s := by
  rw [padded_iff]
  constructor
  · intro h
    unfold LineRule.isValue at h
    split at h
    · next htrim =>
      -- all is blank; the value is a blank that is no newline
      obtain ⟨c, hc, hne⟩ := List.any_eq_true.mp h
      obtain ⟨before, after, rfl⟩ := List.append_of_mem hc
      obtain ⟨hbefore, hrest⟩ := List.forall_mem_append.mp (isBlank_of_trim_eq_nil htrim)
      refine ⟨before, [c], after, rfl, hbefore, ⟨List.cons_ne_nil _ _, fun hnewline => ?_⟩,
        (List.forall_mem_cons.mp hrest).2⟩
      exact bne_iff_ne.mp hne (List.mem_singleton.mp hnewline).symm
    · next hcore =>
      obtain ⟨before, after, hsplit, hbefore, hafter⟩ := exists_blanks_trim s
      exact ⟨before, trim s, after, hsplit, hbefore, ⟨hcore, all_ne_newline_iff.mp h⟩, hafter⟩
  · rintro ⟨before, part, after, rfl, hbefore, ⟨hne, hrow⟩, hafter⟩
    unfold LineRule.isValue
    rw [trim_blanks_append hbefore, trim_append_blanks hafter]
    split
    · obtain ⟨c, others, rfl⟩ := List.exists_cons_of_ne_nil hne
      have hc : c ≠ '\n' := ne_of_mem_of_not_mem List.mem_cons_self hrow
      exact List.any_eq_true.mpr ⟨c, by simp, bne_iff_ne.mpr hc⟩
    · exact all_ne_newline_iff.mpr fun hmem => hrow ((trim_isInfix part).subset hmem)

/-- One of the blanks in front may be the first character of an assigned value. -/
lemma padded_of_isAssignedValue (h : LineRule.isAssignedValue s = true) :
    inOrder [blanks, assignedPart, blanks] s := by
  obtain ⟨before, hsplit, hbefore⟩ := exists_blanks_trimStart s
  rw [padded_iff]
  unfold LineRule.isAssignedValue at h
  split at h
  · next hnil =>
    rw [hnil, List.append_nil] at hsplit
    subst hsplit
    cases s with
    | nil => cases h
    | cons c rest =>
      obtain ⟨hc, hrest⟩ := List.forall_mem_cons.mp hbefore
      exact ⟨[], [c], rest, rfl, List.forall_mem_nil _,
        ⟨c, [], rfl, ne_of_isBlank hc (by decide), List.not_mem_nil⟩, hrest⟩
  · next rest hstart =>
    obtain ⟨hhead, hall⟩ := Bool.and_eq_true_iff.mp h
    rw [hstart] at hsplit
    have hne : before ≠ [] := by
      rintro rfl
      rw [hsplit] at hhead
      have hequals : isBlank '=' = true := hhead
      exact absurd hequals (by decide)
    obtain ⟨front, last, rfl⟩ := (List.eq_nil_or_concat' before).resolve_left hne
    obtain ⟨hfront, hlast⟩ := List.forall_mem_append.mp hbefore
    obtain ⟨after, hend, hafter⟩ := exists_blanks_trimEnd ('=' :: rest)
    refine ⟨front, last :: trimEnd ('=' :: rest), after, ?_, hfront, ⟨last, _, rfl, ?_, ?_⟩, hafter⟩
    · rw [List.cons_append, ← hend, hsplit, List.append_assoc, List.singleton_append]
    · exact ne_of_isBlank (hlast last List.mem_cons_self) (by decide)
    · exact all_ne_newline_iff.mp hall
  · next c rest hc hstart =>
    rw [hstart] at hsplit
    obtain ⟨after, hend, hafter⟩ := exists_blanks_trimEnd rest
    refine ⟨before, c :: trimEnd rest, after, ?_, hbefore, ⟨c, _, rfl, hc, ?_⟩, hafter⟩
    · rw [List.cons_append, ← hend, hsplit]
    · exact all_ne_newline_iff.mp h

lemma isAssignedValue_eq_true_iff :
    LineRule.isAssignedValue s = true ↔ inOrder [blanks, assignedPart, blanks] s := by
  refine ⟨padded_of_isAssignedValue, fun h => ?_⟩
  obtain ⟨before, _, after, rfl, hbefore, ⟨c, part, rfl, hc, hrow⟩, hafter⟩ := padded_iff.mp h
  unfold LineRule.isAssignedValue
  rw [trimStart_blanks_append hbefore, List.cons_append]
  by_cases hblank : isBlank c = true
  · have hhead : (before ++ c :: (part ++ after)).head?.any isBlank = true := by
      cases before with
      | nil => exact hblank
      | cons d others => exact hbefore d List.mem_cons_self
    have htrim : trimEnd (trimStart (part ++ after)) = trim part := trim_append_blanks hafter
    have hinside : '\n' ∉ trim part := fun hmem => hrow ((trim_isInfix part).subset hmem)
    rw [trimStart_cons_of_isBlank hblank, hhead]
    split
    · simp
    · next rest hstart =>
      rw [← hstart, htrim]
      exact all_ne_newline_iff.mpr hinside
    · next d rest hd hstart =>
      rw [← htrim, hstart] at hinside
      exact all_ne_newline_iff.mpr fun hmem => hinside (mem_trimEnd_cons hmem)
  · rw [Bool.not_eq_true] at hblank
    have hall : (trimEnd (part ++ after)).all (· != '\n') = true := by
      rw [trimEnd_append_blanks hafter]
      exact all_ne_newline_iff.mpr fun hmem => hrow ((trimEnd_isPrefix part).subset hmem)
    rw [trimStart_cons_of_not_isBlank hblank]
    split
    · next hstart => cases hstart
    · next hstart => exact absurd (List.cons.inj hstart).1 hc
    · next hstart =>
      obtain ⟨rfl, rfl⟩ := List.cons.inj hstart
      exact hall

end Parts

section Readers

variable {s rest first line : List Char}

lemma beforeFinalSemicolon?_eq_some_iff :
    LineRule.beforeFinalSemicolon? s = some first ↔ s = first ++ [';'] := by
  unfold LineRule.beforeFinalSemicolon?
  rw [Option.ite_none_right_eq_some, Option.some.injEq, beq_iff_eq]
  constructor
  · rintro ⟨hlast, rfl⟩
    exact (List.dropLast_append_getLast? _ hlast).symm
  · rintro rfl
    exact ⟨List.getLast?_concat, List.dropLast_concat⟩

lemma exists_beforeFinalSemicolon_iff {parts : List Shape} {p : List Char → Bool}
    (h : ∀ s, p s = true ↔ inOrder parts s) :
    (∃ first, LineRule.beforeFinalSemicolon? s = some first ∧ p first = true) ↔
      inOrder (parts ++ [exactly ";"]) s := by
  rw [inOrder_append]
  constructor
  · rintro ⟨first, hfirst, hp⟩
    exact ⟨first, [';'], beforeFinalSemicolon?_eq_some_iff.mp hfirst, (h first).mp hp, [';'], [],
      rfl, rfl, rfl⟩
  · rintro ⟨first, _, rfl, hparts, _, _, rfl, rfl, rfl⟩
    exact ⟨first, beforeFinalSemicolon?_eq_some_iff.mpr rfl, (h first).mpr hparts⟩

lemma afterParenthesis?_eq_some_iff {keyword : String} :
    LineRule.afterParenthesis? keyword line = some rest ↔
      ∃ between, line = keyword.toList ++ (between ++ '(' :: rest) ∧ blanks between := by
  unfold LineRule.afterParenthesis?
  rw [Option.ite_none_right_eq_some]
  constructor
  · rintro ⟨hstarts, h⟩
    obtain ⟨after, rfl⟩ := List.isPrefixOf_iff_prefix.mp hstarts
    rw [List.drop_left] at h
    obtain ⟨between, hsplit, hblank⟩ := exists_blanks_trimStart after
    split at h
    · next hopen =>
      obtain rfl := Option.some.inj h
      exact ⟨between, by rw [← hopen, ← hsplit], hblank⟩
    · cases h
  · rintro ⟨between, rfl, hblank⟩
    refine ⟨List.isPrefixOf_iff_prefix.mpr (List.prefix_append _ _), ?_⟩
    rw [List.drop_left, trimStart_append hblank (startsOutside_cons.mpr (by decide))]
    rfl

lemma exists_afterParenthesis_iff (keyword : String) (others : List Shape) (line : List Char) :
    (∃ rest, LineRule.afterParenthesis? keyword line = some rest ∧ inOrder others rest) ↔
      inOrder (exactly keyword :: blanks :: exactly "(" :: others) line := by
  simp only [afterParenthesis?_eq_some_iff]
  constructor
  · rintro ⟨rest, ⟨between, rfl, hbetween⟩, hrest⟩
    exact ⟨_, _, rfl, rfl, between, _, rfl, hbetween, ['('], rest, rfl, rfl, hrest⟩
  · rintro ⟨_, _, rfl, rfl, between, _, rfl, hbetween, _, rest, rfl, rfl, hrest⟩
    exact ⟨rest, ⟨between, rfl, hbetween⟩, hrest⟩

lemma cutAt?_eq_some_iff {c : Char} :
    LineRule.cutAt? c s = some (first, rest) ↔ s = first ++ c :: rest ∧ c ∉ first := by
  have hsplit := List.takeWhile_append_dropWhile (l := s) (p := (· != c))
  unfold LineRule.cutAt?
  constructor
  · intro h
    split at h
    · next d after hdrop =>
      obtain ⟨rfl, rfl⟩ := Prod.mk.inj (Option.some.inj h)
      have hd : d = c := by
        have hhead := startsOutside_dropWhile (· != c) s d (by rw [hdrop]; rfl)
        simpa using hhead
      rw [hdrop, hd] at hsplit
      exact ⟨hsplit.symm, fun hmem => by simpa using List.mem_takeWhile_imp hmem⟩
    · cases h
  · rintro ⟨rfl, hfirst⟩
    have hinside : ∀ d ∈ first, (d != c) = true :=
      fun d hd => bne_iff_ne.mpr (ne_of_mem_of_not_mem hd hfirst)
    have hstop : StartsOutside (· != c) (c :: rest) := startsOutside_cons.mpr (by simp)
    rw [dropWhile_run_append hinside hstop, takeWhile_run_append hinside hstop]

lemma exists_cutAt_iff {c : Char} {mark : String} (hmark : mark.toList = [c])
    (others : List Shape) (s : List Char) :
    (∃ first rest, LineRule.cutAt? c s = some (first, rest) ∧ inOrder others rest) ↔
      inOrder (without c :: exactly mark :: others) s := by
  simp only [cutAt?_eq_some_iff]
  constructor
  · rintro ⟨first, rest, ⟨rfl, hfirst⟩, hothers⟩
    exact ⟨first, c :: rest, rfl, hfirst, [c], rest, rfl, hmark.symm, hothers⟩
  · rintro ⟨first, _, rfl, hfirst, _, rest, rfl, rfl, hothers⟩
    exact ⟨first, rest, ⟨by rw [hmark, List.singleton_append], hfirst⟩, hothers⟩

lemma beforeLastParenthesis?_eq_some_iff : LineRule.beforeLastParenthesis? s = some first ↔
    ∃ others, s.takeWhile (· != '\n') = first ++ ')' :: others ∧ ')' ∉ others := by
  have hcut : LineRule.beforeLastParenthesis? s = some first ↔
      ∃ others, LineRule.cutAt? ')' (s.takeWhile (· != '\n')).reverse =
        some (others, first.reverse) := by
    unfold LineRule.beforeLastParenthesis? LineRule.cutAt?
    split <;> simp [List.reverse_eq_iff]
  rw [hcut]
  constructor
  · rintro ⟨others, h⟩
    obtain ⟨hsplit, hothers⟩ := cutAt?_eq_some_iff.mp h
    refine ⟨others.reverse, List.reverse_injective ?_, fun hmem => ?_⟩
    · simp [hsplit]
    · exact hothers (List.mem_reverse.mp hmem)
  · rintro ⟨others, hsplit, hothers⟩
    refine ⟨others.reverse, cutAt?_eq_some_iff.mpr ⟨?_, fun hmem => ?_⟩⟩
    · simp [hsplit]
    · exact hothers (List.mem_reverse.mp hmem)

lemma exists_last_of_mem {c : Char} (h : c ∈ s) : ∃ first others, s = first ++ c :: others ∧
    c ∉ others := by
  obtain ⟨others, first, hsplit, hothers⟩ := List.eq_append_cons_of_mem (List.mem_reverse.mpr h)
  refine ⟨first.reverse, others.reverse, List.reverse_injective ?_, fun hmem => ?_⟩
  · simp [hsplit]
  · exact hothers (List.mem_reverse.mp hmem)

/-- A parenthesis closes somewhere behind the first character, still on its row. -/
lemma exists_beforeLastParenthesis_iff :
    (∃ condition, LineRule.beforeLastParenthesis? s = some condition ∧ condition ≠ []) ↔
      inOrder [rowPart, exactly ")", anything] s := by
  simp only [beforeLastParenthesis?_eq_some_iff]
  constructor
  · rintro ⟨condition, ⟨others, hrow, -⟩, hne⟩
    have hnewline : '\n' ∉ condition := by
      intro hmem
      have hinside : '\n' ∈ s.takeWhile (· != '\n') := hrow ▸ List.mem_append_left _ hmem
      simpa using List.mem_takeWhile_imp hinside
    refine ⟨condition, ')' :: (others ++ s.dropWhile (· != '\n')), ?_, ⟨hne, hnewline⟩, [')'], _,
      rfl, rfl, _, [], (List.append_nil _).symm, trivial, rfl⟩
    have hwhole := (List.takeWhile_append_dropWhile (l := s) (p := (· != '\n'))).symm
    rwa [hrow, List.append_assoc, List.cons_append] at hwhole
  · rintro ⟨part, _, rfl, ⟨hne, hnewline⟩, _, _, rfl, rfl, rest, _, rfl, -, rfl⟩
    have hinside : ∀ c ∈ part, (c != '\n') = true :=
      fun c hc => bne_iff_ne.mpr (ne_of_mem_of_not_mem hc hnewline)
    have hrow : (part ++ (")".toList ++ (rest ++ []))).takeWhile (· != '\n') =
        part ++ ')' :: rest.takeWhile (· != '\n') := by
      rw [List.takeWhile_append_of_pos hinside]
      simp
    rw [hrow]
    obtain ⟨condition, others, hsplit, hothers⟩ := exists_last_of_mem
      (List.mem_append_right part (List.mem_cons_self (a := ')')
        (l := rest.takeWhile (· != '\n'))))
    refine ⟨condition, ⟨others, hsplit, hothers⟩, ?_⟩
    -- a parenthesis at the very start would not be the last one
    rintro rfl
    obtain ⟨c, more, rfl⟩ := List.exists_cons_of_ne_nil hne
    rw [List.cons_append, List.nil_append] at hsplit
    obtain ⟨-, rfl⟩ := List.cons.inj hsplit
    exact hothers (List.mem_append_right _ List.mem_cons_self)

end Readers

section Shapes

variable {line type name rest : List Char} {rule : LineRule}

lemma declarationHead?_eq_some_iff : Check.C.declarationHead? line = some (type, name, rest) ↔
    ∃ first second, line = type ++ (first ++ (name ++ (second ++ rest))) ∧
      (∃ word ∈ Check.C.typeNames, type = word.toList) ∧ gap first ∧ plainIdentifier name ∧
        blanks second ∧ StartsOutside isBlank rest ∧ StartsOutside isWord (second ++ rest) := by
  simp only [Check.C.declarationHead?, Check.C.firstWord, Option.bind_eq_bind,
    Option.ite_none_right_eq_some, Option.bind_eq_some_iff, Prod.exists, Option.pure_def,
    Option.some.injEq, Prod.mk.injEq, Bool.and_eq_true, List.contains_eq_mem, decide_eq_true_eq,
    List.mem_map, Option.any_eq_true]
  constructor
  · rintro ⟨⟨⟨word, hword, htype⟩, c, hc, hblank⟩, name, after, hname, rfl, rfl, rfl⟩
    obtain ⟨hsplit, hidentifier, hstop⟩ := takeIdent?_eq_some_iff.mp hname
    obtain ⟨first, hfirst, hblanks⟩ := exists_blanks_trimStart (line.dropWhile isWord)
    obtain ⟨second, hsecond, hblanks'⟩ := exists_blanks_trimStart after
    have hne : first ≠ [] := by
      rintro rfl
      rw [hfirst, List.nil_append] at hc
      rw [startsOutside_dropWhile isBlank _ c hc] at hblank
      cases hblank
    refine ⟨first, second, ?_, ⟨word, hword, htype.symm⟩, ⟨hne, hblanks⟩, hidentifier, hblanks',
      startsOutside_dropWhile isBlank _, hsecond ▸ hstop⟩
    rw [← hsecond, ← hsplit, ← hfirst, List.takeWhile_append_dropWhile]
  · rintro ⟨first, second, rfl, ⟨word, hword, rfl⟩, hfirst, hname, hsecond, hrest, hstop⟩
    have htypes : ∀ type ∈ Check.C.typeNames, type.toList.all isWord = true := by decide
    have htype := List.all_eq_true.mp (htypes word hword)
    obtain ⟨hne, hletters⟩ := isWord_of_plainIdentifier hname
    rw [takeWhile_run_append htype (startsOutside_isWord_of_gap hfirst),
      dropWhile_run_append htype (startsOutside_isWord_of_gap hfirst),
      trimStart_append hfirst.2 (startsOutside_isBlank hne hletters)]
    obtain ⟨c, others, rfl⟩ := List.exists_cons_of_ne_nil hfirst.1
    exact ⟨⟨⟨word, hword, rfl⟩, c, rfl, hfirst.2 c List.mem_cons_self⟩, name, second ++ rest,
      takeIdent?_eq_some_iff.mpr ⟨rfl, hname, hstop⟩, rfl, rfl, trimStart_append hsecond hrest⟩

lemma isSome_afterEquals_iff {parts : List Shape} {p : List Char → Bool}
    (h : ∀ s, p s = true ↔ inOrder parts s) (label : String) (s : List Char) :
    (match s with
      | '=' :: rest => do
        let value ← LineRule.beforeFinalSemicolon? rest
        if p value then some label else none
      | _ => none : Option String).isSome = true ↔
      ∃ rest, s = '=' :: rest ∧ inOrder (parts ++ [exactly ";"]) rest := by
  simp only [← exists_beforeFinalSemicolon_iff h]
  split
  · next rest =>
    cases hbefore : LineRule.beforeFinalSemicolon? rest <;> simp [hbefore]
  · next hequals =>
    refine iff_of_false (by simp) ?_
    rintro ⟨rest, rfl, -⟩
    exact hequals rest rfl

lemma isSome_declarationLabel?_iff : (LineRule.declarationLabel? line).isSome = true ↔
    ∃ type name rest, Check.C.declarationHead? line = some (type, name, '=' :: rest) ∧
      inOrder [blanks, rowPart, blanks, exactly ";"] rest := by
  unfold LineRule.declarationLabel?
  cases hhead : Check.C.declarationHead? line with
  | none => simp
  | some head =>
    obtain ⟨type, name, rest⟩ := head
    refine (isSome_afterEquals_iff (fun _ => isValue_eq_true_iff) _ rest).trans ?_
    simp

lemma isSome_assignmentLabel?_iff : (LineRule.assignmentLabel? line).isSome = true ↔
    ∃ name rest others, takeIdent? line = some (name, rest) ∧ trimStart rest = '=' :: others ∧
      inOrder [blanks, assignedPart, blanks, exactly ";"] others := by
  unfold LineRule.assignmentLabel?
  cases hname : takeIdent? line with
  | none => simp
  | some head =>
    obtain ⟨name, rest⟩ := head
    refine (isSome_afterEquals_iff (fun _ => isAssignedValue_eq_true_iff) _ _).trans ?_
    simp

lemma isSome_conditionalLabel?_iff : (LineRule.conditionalLabel? line).isSome = true ↔
    ruleShape .conditional line := by
  rw [ruleShape, ← exists_afterParenthesis_iff]
  simp only [← exists_beforeLastParenthesis_iff]
  unfold LineRule.conditionalLabel?
  cases LineRule.afterParenthesis? "if" line with
  | none => simp
  | some rest =>
    cases hcondition : LineRule.beforeLastParenthesis? rest <;> simp [hcondition]

lemma isSome_loopLabel?_iff : (LineRule.loopLabel? line).isSome = true ↔
    ruleShape .loop line := by
  have hsemicolon : ";".toList = [';'] := rfl
  have hparenthesis : ")".toList = [')'] := rfl
  have hrest (s : List Char) : inOrder [anything] s :=
    ⟨s, [], (List.append_nil s).symm, trivial, rfl⟩
  rw [ruleShape, ← exists_afterParenthesis_iff]
  simp only [← exists_cutAt_iff hsemicolon, ← exists_cutAt_iff hparenthesis, hrest, and_true]
  simp only [LineRule.loopLabel?, Option.isSome_iff_exists, Option.bind_eq_bind,
    Option.bind_eq_some_iff, Prod.exists, Option.pure_def, Option.some.injEq]
  constructor
  · rintro ⟨_, rest, hrest, first, second, hfirst, test, third, htest, advance, last, hlast, -⟩
    exact ⟨rest, hrest, first, second, hfirst, test, third, htest, advance, last, hlast⟩
  · rintro ⟨rest, hrest, first, second, hfirst, test, third, htest, advance, last, hlast⟩
    exact ⟨_, rest, hrest, first, second, hfirst, test, third, htest, advance, last, hlast, rfl⟩

theorem isSome_criterion?_iff (rule : LineRule) (line : List Char) :
    (rule.criterion? line).isSome = true ↔ ruleShape rule line := by
  rw [LineRule.criterion?, Option.isSome_map]
  cases rule with
  | declaration =>
    refine isSome_declarationLabel?_iff.trans ?_
    simp only [declarationHead?_eq_some_iff]
    constructor
    · rintro ⟨type, name, rest, ⟨first, second, rfl, htype, hfirst, hname, hsecond, -, -⟩, hrest⟩
      exact ⟨type, _, rfl, htype, first, _, rfl, hfirst, name, _, rfl, hname, second, _, rfl,
        hsecond, ['='], rest, rfl, rfl, hrest⟩
    · rintro ⟨type, _, rfl, htype, first, _, rfl, hfirst, name, _, rfl, hname, second, _, rfl,
        hsecond, _, rest, rfl, rfl, hrest⟩
      refine ⟨type, name, rest, ⟨first, second, rfl, htype, hfirst, hname, hsecond, ?_, ?_⟩, hrest⟩
      · exact startsOutside_cons.mpr (by decide)
      · exact startsOutside_isWord_of_blanks hsecond (startsOutside_cons.mpr (by decide))
  | assignment =>
    refine isSome_assignmentLabel?_iff.trans ?_
    simp only [takeIdent?_eq_some_iff]
    constructor
    · rintro ⟨name, rest, others, ⟨rfl, hname, -⟩, hequals, hothers⟩
      obtain ⟨between, hsplit, hbetween⟩ := exists_blanks_trimStart rest
      rw [hequals] at hsplit
      exact ⟨name, rest, rfl, hname, between, _, hsplit, hbetween, ['='], others, rfl, rfl, hothers⟩
    · rintro ⟨name, _, rfl, hname, between, _, rfl, hbetween, _, others, rfl, rfl, hothers⟩
      refine ⟨name, _, others, ⟨rfl, hname, ?_⟩, ?_, hothers⟩
      · exact startsOutside_isWord_of_blanks hbetween (startsOutside_cons.mpr (by decide))
      · exact trimStart_append hbetween (startsOutside_cons.mpr (by decide))
  | conditional => exact isSome_conditionalLabel?_iff
  | loop => exact isSome_loopLabel?_iff

end Shapes

/-- The rule that is left for a line with this first word and, behind it and the blanks there, this
character. -/
def ruleLedBy (word : List Char) (next : Option Char) : Option LineRule :=
  if next = some '=' then some .assignment
  else if next = some '(' then
    if word = "if".toList then some .conditional
    else if word = "for".toList then some .loop
    else none
  else some .declaration

section Order

variable {line word name between after : List Char} {rule other : LineRule} {c : Char}

lemma lead_append (hword : ∀ d ∈ word, isWord d = true) (hbetween : blanks between)
    (hc : isBlank c = false) (hstop : StartsOutside isWord (between ++ c :: after)) :
    (word ++ (between ++ c :: after)).takeWhile isWord = word ∧
      (trimStart ((word ++ (between ++ c :: after)).dropWhile isWord)).head? = some c := by
  rw [takeWhile_run_append hword hstop, dropWhile_run_append hword hstop,
    trimStart_append hbetween (startsOutside_cons.mpr hc)]
  exact ⟨rfl, rfl⟩

lemma lead_mark (c : Char) (hc : isWord c = false ∧ isBlank c = false)
    (hword : ∀ d ∈ word, isWord d = true) (hbetween : blanks between) (after : List Char) :
    (word ++ (between ++ c :: after)).takeWhile isWord = word ∧
      (trimStart ((word ++ (between ++ c :: after)).dropWhile isWord)).head? = some c :=
  lead_append hword hbetween hc.2
    (startsOutside_isWord_of_blanks hbetween (startsOutside_cons.mpr hc.1))

lemma ruleLedBy_of_ruleShape (h : ruleShape rule line) :
    ruleLedBy (line.takeWhile isWord) (trimStart (line.dropWhile isWord)).head? = some rule := by
  cases rule with
  | declaration =>
    obtain ⟨_, _, rfl, ⟨type, htype, rfl⟩, first, _, rfl, hfirst, _, _, rfl,
      ⟨c, rest, rfl, hc, -⟩, -⟩ := h
    have htypes : ∀ type ∈ Check.C.typeNames, type.toList.all isWord = true := by decide
    obtain ⟨-, hnext⟩ := lead_append (List.all_eq_true.mp (htypes type htype)) hfirst.2
      (not_isBlank_of_isWord (isWord_of_isIdentStart hc)) (startsOutside_isWord_of_gap hfirst)
    have hne {d : Char} (hd : isIdentStart d = false) : some c ≠ some d := by
      rintro heq
      rw [Option.some.inj heq, hd] at hc
      cases hc
    rw [List.cons_append, hnext, ruleLedBy, if_neg (hne (by decide)), if_neg (hne (by decide))]
  | assignment =>
    obtain ⟨name, _, rfl, hname, between, _, rfl, hbetween, _, _, rfl, rfl, -⟩ := h
    exact if_pos (lead_mark '=' (by decide) (isWord_of_plainIdentifier hname).2 hbetween _).2
  | conditional =>
    obtain ⟨_, _, rfl, rfl, between, _, rfl, hbetween, _, _, rfl, rfl, -⟩ := h
    have hif : "if".toList.all isWord = true := by decide
    obtain ⟨hword, hnext⟩ := lead_mark '(' (by decide) (List.all_eq_true.mp hif) hbetween _
    exact congrArg₂ ruleLedBy hword hnext
  | loop =>
    obtain ⟨_, _, rfl, rfl, between, _, rfl, hbetween, _, _, rfl, rfl, -⟩ := h
    have hfor : "for".toList.all isWord = true := by decide
    obtain ⟨hword, hnext⟩ := lead_mark '(' (by decide) (List.all_eq_true.mp hfor) hbetween _
    exact congrArg₂ ruleLedBy hword hnext

lemma eq_of_criterion? (h : (rule.criterion? line).isSome = true)
    (hother : (other.criterion? line).isSome = true) : rule = other := by
  have hrule := ruleLedBy_of_ruleShape ((isSome_criterion?_iff rule line).mp h)
  rw [ruleLedBy_of_ruleShape ((isSome_criterion?_iff other line).mp hother)] at hrule
  exact (Option.some.inj hrule).symm

/-- If only one item of a list can give a result, the order of the items does not matter. -/
lemma findSome?_eq_of_perm {α β : Type} {f : α → Option β} {xs ys : List α} (hperm : xs.Perm ys)
    (h : ∀ x y, (f x).isSome = true → (f y).isSome = true → x = y) :
    xs.findSome? f = ys.findSome? f := by
  have hmem (zs : List α) (b : β) : zs.findSome? f = some b ↔ ∃ x ∈ zs, f x = some b := by
    refine ⟨List.exists_of_findSome?_eq_some, ?_⟩
    rintro ⟨x, hx, hb⟩
    have hfound : (zs.findSome? f).isSome = true :=
      List.findSome?_isSome_iff.mpr ⟨x, hx, by rw [hb]; rfl⟩
    obtain ⟨d, hd⟩ := Option.isSome_iff_exists.mp hfound
    obtain ⟨y, -, hy⟩ := List.exists_of_findSome?_eq_some hd
    obtain rfl := h x y (by rw [hb]; rfl) (by rw [hy]; rfl)
    rw [hd, ← hy, hb]
  refine Option.ext fun b => ?_
  simp only [hmem, hperm.mem_iff]

lemma criteriaInOrder_eq_derive {order : List LineRule} (hperm : order.Perm LineRule.all)
    (solution : List Char) : criteriaInOrder order solution = Rubric.derive solution := by
  have hline (line : List Char) : (order.findSome? fun rule => rule.criterion? (trim line)) =
      Rubric.lineCriterion? (trim line) :=
    findSome?_eq_of_perm hperm fun _ _ => eq_of_criterion?
  simp only [criteriaInOrder, hline]
  rfl

/-- A comparison has no criterion: an assigned value does not start with an equals sign. -/
lemma criterion?_comparison (hname : plainIdentifier name) (hbetween : blanks between)
    (after : List Char) (rule : LineRule) :
    rule.criterion? (name ++ (between ++ '=' :: '=' :: after)) = none := by
  rw [← Option.not_isSome_iff_eq_none]
  intro h
  have hstop : StartsOutside isWord (between ++ '=' :: '=' :: after) :=
    startsOutside_isWord_of_blanks hbetween (startsOutside_cons.mpr (by decide))
  have hrule := ruleLedBy_of_ruleShape ((isSome_criterion?_iff rule _).mp h)
  rw [(lead_mark '=' (by decide) (isWord_of_plainIdentifier hname).2 hbetween _).2] at hrule
  obtain rfl : LineRule.assignment = rule := Option.some.inj hrule
  rw [LineRule.criterion?, Option.isSome_map] at h
  obtain ⟨_, _, others, hident, hequals, hvalue⟩ := isSome_assignmentLabel?_iff.mp h
  rw [takeIdent?_eq_some_iff.mpr ⟨rfl, hname, hstop⟩] at hident
  obtain ⟨rfl, rfl⟩ := Prod.mk.inj (Option.some.inj hident)
  rw [trimStart_append hbetween (startsOutside_cons.mpr (by decide))] at hequals
  obtain ⟨-, rfl⟩ := List.cons.inj hequals
  obtain ⟨blank, _, hsplit, hblank, _, _, rfl, ⟨c, rest, rfl, hc, -⟩, -⟩ := hvalue
  cases blank with
  | nil => exact hc (List.cons.inj hsplit).1.symm
  | cons d others =>
    obtain ⟨rfl, -⟩ := List.cons.inj hsplit
    exact absurd (hblank _ List.mem_cons_self) (by decide)

/-- At most one rule has a criterion for a line, so a solution has the same criteria for every order
of the rules; and a comparison is no assignment, nor has another rule a criterion for it. -/
theorem criteria_do_not_depend_on_order :
    (∀ (line : List Char) (rule other : LineRule), (rule.criterion? line).isSome = true →
      (other.criterion? line).isSome = true → rule = other) ∧
    (∀ (order : List LineRule), order.Perm LineRule.all →
      ∀ solution, criteriaInOrder order solution = Rubric.derive solution) ∧
    ∀ (name between after : List Char) (rule : LineRule), plainIdentifier name → blanks between →
      rule.criterion? (name ++ (between ++ '=' :: '=' :: after)) = none :=
  ⟨fun _ _ _ => eq_of_criterion?, fun _ => criteriaInOrder_eq_derive,
    fun _ _ after rule hname hbetween => criterion?_comparison hname hbetween after rule⟩

/-- A declaration, the rules tried from the last to the first, and a comparison. -/
theorem criteria_do_not_depend_on_order_reversed :
    (LineRule.declaration.criterion? "int x = 1;".toList).isSome = true ∧
      LineRule.declaration = LineRule.declaration ∧
      LineRule.all.reverse.Perm LineRule.all ∧
      criteriaInOrder LineRule.all.reverse "int x = 1;\nif (x == 1)".toList =
        Rubric.derive "int x = 1;\nif (x == 1)".toList ∧
      plainIdentifier "x".toList ∧ blanks " ".toList ∧
      LineRule.assignment.criterion? "x == 1;".toList = none := by
  obtain ⟨hsame, horder, hcomparison⟩ := criteria_do_not_depend_on_order
  have hdeclaration : (LineRule.declaration.criterion? "int x = 1;".toList).isSome = true := by
    decide
  have hperm : LineRule.all.reverse.Perm LineRule.all := List.reverse_perm _
  have hname : plainIdentifier "x".toList := ⟨'x', [], rfl, by decide, List.forall_mem_nil _⟩
  have hblank : blanks " ".toList := List.forall_mem_singleton.mpr (by decide)
  exact ⟨hdeclaration, hsame _ _ _ hdeclaration hdeclaration, hperm, horder _ hperm _, hname,
    hblank, hcomparison "x".toList " ".toList " 1;".toList .assignment hname hblank⟩

end Order

end Autograder.Proofs
