import Autograder.Number.Total

/-!
# Rubric criteria

A criterion is one thing a submission earns points for. An assessment says whether a submission met
it; points are awarded in full or not at all.
-/

namespace Autograder

/-- What a criterion is about. -/
inductive CriterionKind where
  | declaration
  | assignment
  | conditional
  | loop
  | outline
  | logic
  | rule
deriving DecidableEq, Repr

namespace CriterionKind

def name : CriterionKind → String
  | declaration => "declaracion"
  | assignment => "asignacion"
  | conditional => "condicional"
  | loop => "bucle"
  | outline => "estructura"
  | logic => "logica"
  | rule => "regla"

def all : List CriterionKind :=
  [declaration, assignment, conditional, loop, outline, logic, rule]

end CriterionKind

/-- Something a submission earns points for. -/
structure Criterion where
  label : String
  points : Nat
  kind : CriterionKind
  hint : Option String := none
deriving DecidableEq

/-- Whether a submission met a criterion, and what it earned. -/
structure Assessment where
  criterion : Criterion
  awarded : Nat
  satisfied : Bool
deriving DecidableEq

namespace Assessment

/-- All points if the criterion is met, none otherwise. -/
def ofCriterion (criterion : Criterion) (satisfied : Bool) : Assessment where
  criterion := criterion
  awarded := if satisfied then criterion.points else 0
  satisfied := satisfied

end Assessment

/-- The sum of the points of a list of criteria, counted in 32 bits. -/
def totalPoints (criteria : List Criterion) : Nat :=
  Number.total32 (criteria.map Criterion.points)

end Autograder
