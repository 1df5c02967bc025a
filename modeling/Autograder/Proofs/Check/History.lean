import Autograder.Check.Pseint
import Autograder.Proofs.Check.Nesting

/-!
# What the check of pseudocode knows of the lines above

As long as nothing is wrong, the scope is a function of the lines above: the stack is the one that
their openings and closings leave, and the names are the ones that they define. Whether a line is
fine can then be said without the scope.
-/

namespace Autograder.Proofs

open Autograder.Check Autograder.Check.Pseint Autograder.Text

/-- What a line does to the nesting; a closer that names no construct does nothing. -/
def bracketOf : LineForm → Option Bracket
  | .closer construct => construct.map .closing
  | .header construct _ => some (.opening construct)
  | _ => none

def brackets (forms : List LineForm) : List Bracket :=
  forms.filterMap bracketOf

/-- Some line defines the name, which is given in lowercase. -/
def IsDefined (forms : List LineForm) (name : List Char) : Prop :=
  ∃ names, LineForm.definition (some names) ∈ forms ∧ name ∈ names

/-- Nothing is wrong with a line below other lines. -/
def IsFine (above : List LineForm) : LineForm → Prop
  | .closer (some construct) => ∃ outer, nest [] (brackets above) = some (construct :: outer)
  | .closer none => True
  | .separator => True
  | .definition names => names.isSome = true
  | .header _ wellFormed => wellFormed = true
  | .assignment name => IsDefined above (lowercase name)
  | .statement terminated => nest [] (brackets above) = some [] → terminated = true

/-- Nothing is wrong with any of the lines, which follow the lines `above`. -/
def AllFine (above : List LineForm) : List LineForm → Prop
  | [] => True
  | form :: rest => IsFine above form ∧ AllFine (above ++ [form]) rest

/-- The scope is what the lines above make of it. -/
structure Reflects (scope : Scope) (above : List LineForm) : Prop where
  nesting : nest [] (brackets above) = some (scope.opened.map Prod.fst)
  names : ∀ name, name ∈ scope.defined ↔ IsDefined above name

section Step

variable {scope : Scope} {above : List LineForm} {form : LineForm}

lemma brackets_append_singleton :
    brackets (above ++ [form]) = brackets above ++ (bracketOf form).toList := by
  cases hform : bracketOf form <;> simp [brackets, hform]

lemma isDefined_append_singleton {name : List Char} : IsDefined (above ++ [form]) name ↔
    IsDefined above name ∨ ∃ names, form = .definition (some names) ∧ name ∈ names := by
  simp only [IsDefined, List.mem_append, List.mem_singleton]
  constructor
  · rintro ⟨names, habove | hform, hname⟩
    · exact .inl ⟨names, habove, hname⟩
    · exact .inr ⟨names, hform.symm, hname⟩
  · rintro (⟨names, habove, hname⟩ | ⟨names, hform, hname⟩)
    · exact ⟨names, .inl habove, hname⟩
    · exact ⟨names, .inr hform.symm, hname⟩

lemma close_cause_eq_none_iff {construct : Construct} : (scope.close construct).2 = none ↔
    ∃ outer, scope.opened.map Prod.fst = construct :: outer := by
  unfold Scope.close
  cases hopened : scope.opened with
  | nil => simp
  | cons innermost outer =>
    by_cases heq : innermost.1 = construct
    · simp [heq]
    · simp [heq]

lemma map_opened_close {construct : Construct} {outer : List Construct}
    (h : scope.opened.map Prod.fst = construct :: outer) :
    (scope.close construct).1.opened.map Prod.fst = outer ∧
      (scope.close construct).1.defined = scope.defined := by
  unfold Scope.close
  cases hopened : scope.opened with
  | nil => simp [hopened] at h
  | cons innermost others =>
    rw [hopened, List.map_cons, List.cons.injEq] at h
    obtain ⟨heq, hothers⟩ := h
    simp [heq, hothers]

lemma step_cause_eq_none_iff (line : Nat) (h : Reflects scope above) :
    (scope.step line form).2 = none ↔ IsFine above form := by
  cases form with
  | closer construct =>
    cases construct with
    | none => simp [Scope.step, IsFine]
    | some construct =>
      simp only [Scope.step, IsFine, close_cause_eq_none_iff, h.nesting, Option.some.injEq]
  | separator => simp [Scope.step, IsFine]
  | definition names => cases names <;> simp [Scope.step, IsFine]
  | header construct wellFormed => simp [Scope.step, IsFine]
  | assignment name => simp [Scope.step, IsFine, h.names]
  | statement terminated => simp [Scope.step, IsFine, h.nesting]

lemma reflects_step (line : Nat) (h : Reflects scope above) (hfine : IsFine above form) :
    Reflects (scope.step line form).1 (above ++ [form]) := by
  have hquiet (hstep : (scope.step line form).1 = scope) (hbracket : bracketOf form = none)
      (hnames : ∀ names, form ≠ .definition (some names)) :
      Reflects (scope.step line form).1 (above ++ [form]) := by
    rw [hstep]
    refine ⟨?_, fun name => ?_⟩
    · simp [brackets_append_singleton, hbracket, h.nesting]
    · simp [isDefined_append_singleton, hnames, h.names]
  cases form with
  | closer construct =>
    cases construct with
    | none => exact hquiet rfl rfl (by simp)
    | some construct =>
      obtain ⟨outer, houter⟩ := hfine
      have hopened : scope.opened.map Prod.fst = construct :: outer :=
        Option.some.inj (h.nesting.symm.trans houter)
      obtain ⟨hnesting, hdefined⟩ := map_opened_close hopened
      refine ⟨?_, fun name => ?_⟩
      · simp only [brackets_append_singleton, bracketOf, nest_append, houter, Scope.step, hnesting,
          Option.map_some, Option.toList_some, Option.bind_some, nest_closing_eq_some]
      · simp [isDefined_append_singleton, Scope.step, hdefined, h.names]
  | separator => exact hquiet rfl rfl (by simp)
  | definition names =>
    cases names with
    | none => cases hfine
    | some names =>
      refine ⟨?_, fun name => ?_⟩
      · simpa [brackets_append_singleton, bracketOf, Scope.step] using h.nesting
      · simp [isDefined_append_singleton, Scope.step, h.names, or_comm]
  | header construct wellFormed =>
    refine ⟨?_, fun name => ?_⟩
    · simp [brackets_append_singleton, bracketOf, Scope.step, nest_append, h.nesting, nest]
    · simp [isDefined_append_singleton, Scope.step, h.names]
  | assignment name => exact hquiet rfl rfl (by simp)
  | statement terminated => exact hquiet rfl rfl (by simp)

end Step

section Run

variable {scope : Scope} {above : List LineForm}

theorem run_findings_eq_nil_iff (h : Reflects scope above) (forms : List (LineForm × Nat)) :
    (scope.run forms).2 = [] ↔ AllFine above (forms.map Prod.fst) := by
  induction forms generalizing scope above with
  | nil => simp [Scope.run, AllFine]
  | cons numbered rest ih =>
    obtain ⟨form, line⟩ := numbered
    simp only [Scope.run, List.map_cons, AllFine, List.append_eq_nil_iff]
    have hcause : (((scope.step line form).2.map (Finding.mk line)).toList = []) ↔
        IsFine above form := by
      rw [← step_cause_eq_none_iff line h]
      simp
    rw [hcause]
    constructor
    · rintro ⟨hfine, hrest⟩
      exact ⟨hfine, (ih (reflects_step line h hfine)).mp hrest⟩
    · rintro ⟨hfine, hrest⟩
      exact ⟨hfine, (ih (reflects_step line h hfine)).mpr hrest⟩

theorem reflects_run (h : Reflects scope above) {forms : List (LineForm × Nat)}
    (hfine : AllFine above (forms.map Prod.fst)) :
    Reflects (scope.run forms).1 (above ++ forms.map Prod.fst) := by
  induction forms generalizing scope above with
  | nil => simpa [Scope.run] using h
  | cons numbered rest ih =>
    obtain ⟨form, line⟩ := numbered
    obtain ⟨hform, hrest⟩ := hfine
    have := ih (reflects_step line h hform) hrest
    rw [List.append_assoc, List.singleton_append] at this
    exact this

lemma reflects_empty : Reflects {} [] := by
  refine ⟨rfl, fun name => ?_⟩
  simp [IsDefined]

lemma allFine_iff_splits {forms : List LineForm} : AllFine above forms ↔
    ∀ before form after, forms = before ++ form :: after → IsFine (above ++ before) form := by
  induction forms generalizing above with
  | nil => simp [AllFine]
  | cons first rest ih =>
    simp only [AllFine, ih]
    constructor
    · rintro ⟨hfirst, hrest⟩ before form after heq
      cases before with
      | nil =>
        obtain ⟨rfl, -⟩ := List.cons.inj heq
        rwa [List.append_nil]
      | cons _ before =>
        obtain ⟨rfl, htail⟩ := List.cons.inj heq
        have := hrest before form after htail
        rwa [List.append_assoc, List.singleton_append] at this
    · intro h
      refine ⟨?_, fun before form after heq => ?_⟩
      · simpa using h [] first rest rfl
      · have := h (first :: before) form after (by rw [heq, List.cons_append])
        rwa [List.append_assoc, List.singleton_append]

end Run

/-- The check reports nothing exactly if every line is fine below the ones before it and nothing
stays open. -/
theorem check_eq_nil_iff_allFine (code : List Char) : Pseint.check code = [] ↔
    AllFine [] ((numberedForms code).map Prod.fst) ∧
      WellNested (brackets ((numberedForms code).map Prod.fst)) := by
  have hfindings : Pseint.check code = [] ↔ (Scope.run {} (numberedForms code)).2 = [] ∧
      (Scope.run {} (numberedForms code)).1.unclosed = [] := by
    unfold Pseint.check
    exact List.append_eq_nil_iff
  rw [hfindings, run_findings_eq_nil_iff reflects_empty]
  refine and_congr_right fun hfine => ?_
  have hreflects := (reflects_run reflects_empty hfine).nesting
  rw [List.nil_append] at hreflects
  rw [wellNested_iff_nest, hreflects]
  simp [Scope.unclosed]

end Autograder.Proofs
