/-!
# Totals

The sum of a list of natural numbers, exactly and as a counter of 32 bits keeps it.
-/

namespace Autograder.Number

def total : List Nat → Nat
  | [] => 0
  | n :: rest => n + total rest

/-- The sum in a counter of 32 bits, which starts again at zero when it is full. -/
def total32 (ns : List Nat) : Nat :=
  total ns % Nat.pow 2 32

theorem total_append (ns ms : List Nat) : total (ns ++ ms) = total ns + total ms := by
  induction ns with
  | nil => simp [total]
  | cons n rest ih => simp [total, ih, Nat.add_assoc]

theorem total32_eq_total {ns : List Nat} (h : total ns < Nat.pow 2 32) : total32 ns = total ns :=
  Nat.mod_eq_of_lt h

theorem total32_lt (ns : List Nat) : total32 ns < Nat.pow 2 32 :=
  Nat.mod_lt _ (by decide)

end Autograder.Number
