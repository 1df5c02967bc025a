import Mathlib.Tactic
import Autograder.Text.Blank

/-!
# Blanks and lines

Trimming keeps characters, collapsing keeps no blank but the space, and a text without newlines is
one line.
-/

namespace Autograder.Proofs

open Autograder.Text

lemma mem_of_mem_trim {c : Char} {s : List Char} (h : c ∈ trim s) : c ∈ s := by
  rw [trim, trimEnd, List.mem_reverse] at h
  have hstart := (List.dropWhile_suffix _).subset h
  rw [List.mem_reverse] at hstart
  exact (List.dropWhile_suffix _).subset hstart

lemma eq_space_of_mem_collapseBlanks {c : Char} {s : List Char} (h : c ∈ collapseBlanks s)
    (hblank : isBlank c = true) : c = ' ' := by
  fun_induction collapseBlanks s with
  | case1 => cases h
  | case2 => exact List.mem_singleton.mp h
  | case3 d hd e others he ih => exact ih h
  | case4 d hd e others he ih =>
    rcases List.mem_cons.mp h with rfl | h
    · rfl
    · exact ih h
  | case5 d rest hd ih =>
    rcases List.mem_cons.mp h with rfl | h
    · exact absurd hblank hd
    · exact ih h

lemma length_consFirst_le {c : Char} {rest : List Char} {pieces : List (List Char)}
    (h : pieces.length ≤ rest.length) : (consFirst c pieces).length ≤ rest.length + 1 := by
  cases pieces with
  | nil => simp [consFirst]
  | cons first others =>
    simp only [consFirst, List.length_cons] at h ⊢
    omega

lemma length_lines_le (s : List Char) : (lines s).length ≤ s.length := by
  fun_induction lines s with
  | case1 => simp
  | case2 rest ih => simpa using ih
  | case3 rest ih =>
    simp only [List.length_cons]
    omega
  | case4 c rest hnewline hreturn ih => simpa using length_consFirst_le ih

lemma lines_eq_singleton {s : List Char} (hs : s ≠ []) (h : '\n' ∉ s) : lines s = [s] := by
  fun_induction lines s with
  | case1 => exact absurd rfl hs
  | case2 rest => exact absurd List.mem_cons_self h
  | case3 rest => exact absurd (List.mem_cons_of_mem _ List.mem_cons_self) h
  | case4 c rest hnewline hreturn ih =>
    cases rest with
    | nil => rfl
    | cons d others =>
      rw [ih (by simp) (fun hmem => h (List.mem_cons_of_mem _ hmem))]
      rfl

end Autograder.Proofs
