import Mathlib.Tactic
import Autograder.Check.Construct

/-!
# Well nested constructs

The words of openings and closings in which every construct is closed by its own closer are
generated by a grammar, and recognised by a stack of the constructs that are open.
-/

namespace Autograder.Proofs

open Autograder.Check

inductive Bracket where
  | opening (construct : Construct)
  | closing (construct : Construct)
deriving DecidableEq

/-- The grammar of well nested words: nothing, or a construct around a well nested word and one more
such word behind it. -/
inductive WellNested : List Bracket → Prop where
  | nil : WellNested []
  | block {construct : Construct} {inner rest : List Bracket} (inside : WellNested inner)
      (behind : WellNested rest) :
      WellNested (.opening construct :: (inner ++ .closing construct :: rest))

/-- Reads a word with a stack of open constructs, innermost first; stuck at a closer that does not
name the innermost one. -/
def nest (stack : List Construct) : List Bracket → Option (List Construct)
  | [] => some stack
  | .opening construct :: rest => nest (construct :: stack) rest
  | .closing construct :: rest =>
    match stack with
    | [] => none
    | innermost :: outer => if innermost = construct then nest outer rest else none

section Nest

variable {construct : Construct} {stack : List Construct} {word u v : List Bracket}

lemma nest_append (stack : List Construct) (u v : List Bracket) :
    nest stack (u ++ v) = (nest stack u).bind (nest · v) := by
  induction u generalizing stack with
  | nil => rfl
  | cons bracket rest ih =>
    cases bracket with
    | opening construct => exact ih (construct :: stack)
    | closing construct =>
      cases stack with
      | nil => rfl
      | cons innermost outer =>
        simp only [List.cons_append, nest]
        split_ifs with heq
        · exact ih outer
        · rfl

lemma nest_closing_eq_some {after : List Construct} :
    nest stack [.closing construct] = some after ↔ stack = construct :: after := by
  cases stack with
  | nil => simp [nest]
  | cons innermost outer =>
    simp only [nest]
    split_ifs with heq
    · simp [heq]
    · simp [heq]

lemma nest_of_wellNested (h : WellNested word) (stack : List Construct) :
    nest stack word = some stack := by
  induction h generalizing stack with
  | nil => rfl
  | @block construct inner rest inside behind ihInside ihBehind =>
    rw [nest, nest_append, ihInside, Option.bind_some, nest, if_pos rfl]
    exact ihBehind stack

/-- The words that close all of a stack: a well nested word before each closer and at the end. -/
inductive Closes : List Construct → List Bracket → Prop where
  | done {word : List Bracket} (nested : WellNested word) : Closes [] word
  | close {construct : Construct} {stack : List Construct} {inner rest : List Bracket}
      (nested : WellNested inner) (closes : Closes stack rest) :
      Closes (construct :: stack) (inner ++ .closing construct :: rest)

lemma closes_opening (h : Closes (construct :: stack) word) :
    Closes stack (.opening construct :: word) := by
  cases h with
  | @close _ _ inner rest inside hrest =>
    cases hrest with
    | done behind => exact .done (.block inside behind)
    | @close outer stack next rest nested closes =>
      have hblock : WellNested (.opening construct :: (inner ++ .closing construct :: next)) :=
        .block inside nested
      have hcloses : Closes (outer :: stack) _ := .close hblock closes
      rwa [List.cons_append, List.append_assoc, List.cons_append] at hcloses

lemma closes_of_nest (h : nest stack word = some []) : Closes stack word := by
  -- the stack changes along the word, so the claim is about all stacks at once
  induction word generalizing stack with
  | nil =>
    obtain rfl : stack = [] := Option.some.inj h
    exact .done .nil
  | cons bracket rest ih =>
    cases bracket with
    | opening construct => exact closes_opening (ih h)
    | closing construct =>
      cases stack with
      | nil => cases h
      | cons innermost outer =>
        simp only [nest] at h
        split_ifs at h with heq
        subst heq
        exact .close .nil (ih h)

/-- The stack recognises the grammar. -/
theorem wellNested_iff_nest : WellNested word ↔ nest [] word = some [] := by
  constructor
  · intro h
    exact nest_of_wellNested h []
  · intro h
    cases closes_of_nest h with
    | done nested => exact nested

/-- Constructs below those of the stack change nothing for a word that does not reach them. -/
lemma nest_append_stack {after : List Construct} (h : nest stack word = some after)
    (base : List Construct) : nest (stack ++ base) word = some (after ++ base) := by
  induction word generalizing stack with
  | nil =>
    obtain rfl : stack = after := Option.some.inj h
    rfl
  | cons bracket rest ih =>
    cases bracket with
    | opening construct => exact ih h
    | closing construct =>
      cases stack with
      | nil => cases h
      | cons innermost outer =>
        simp only [nest] at h
        split_ifs at h with heq
        simpa [nest, heq] using ih h

lemma exists_innermost_of_wellNested (h : WellNested (u ++ .closing construct :: v)) :
    ∃ outer, nest [] u = some (construct :: outer) := by
  rw [wellNested_iff_nest, nest_append] at h
  obtain ⟨stack, hstack, h⟩ := Option.bind_eq_some_iff.mp h
  cases stack with
  | nil => cases h
  | cons innermost outer =>
    simp only [nest] at h
    split_ifs at h with heq
    exact ⟨outer, heq ▸ hstack⟩

lemma nest_ne_nil_of_inside (h : WellNested (u ++ v)) :
    nest [] (.opening construct :: u) ≠ some [] := by
  rw [wellNested_iff_nest, nest_append] at h
  obtain ⟨stack, hstack, -⟩ := Option.bind_eq_some_iff.mp h
  have hinside : nest [construct] u = some (stack ++ [construct]) := nest_append_stack hstack _
  rw [nest, hinside]
  simp

lemma even_length_of_wellNested (h : WellNested word) : Even word.length := by
  induction h with
  | nil => exact Even.zero
  | @block construct inner rest inside behind ihInside ihBehind =>
    have hlength : (Bracket.opening construct :: (inner ++ .closing construct :: rest)).length =
        inner.length + rest.length + 2 := by
      simp
      omega
    rw [hlength]
    exact (ihInside.add ihBehind).add even_two

end Nest

end Autograder.Proofs
