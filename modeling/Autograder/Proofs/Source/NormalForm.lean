import Autograder.Proofs.Text.Lines
import Autograder.Proofs.Text.Lowercase
import Autograder.Source.Normal

/-!
# The lines of a normal form

The only blank in a normal form is the space, so a normal form is a single line or empty.
-/

namespace Autograder.Proofs

open Autograder.Text Autograder.Source

theorem eq_space_of_mem_normalize {c : Char} {s : List Char} (h : c ∈ normalize s)
    (hblank : isBlank c = true) : c = ' ' := by
  have htrimmed := mem_of_mem_lowercase h (isPlain_of_isBlank hblank)
  exact eq_space_of_mem_collapseBlanks (mem_of_mem_trim htrimmed) hblank

lemma newline_notMem_normalize (s : List Char) : '\n' ∉ normalize s := by
  intro h
  have := eq_space_of_mem_normalize h (by decide)
  cases this

theorem lines_normalize {s : List Char} (h : normalize s ≠ []) :
    lines (normalize s) = [normalize s] :=
  lines_eq_singleton h (newline_notMem_normalize s)

end Autograder.Proofs
