/-!
# Languages

The two languages in which exercises are solved: C, and the Spanish pseudocode PSeInt.
-/

namespace Autograder

inductive Language where
  | c
  | pseint
deriving DecidableEq, Repr, Inhabited

namespace Language

def name : Language → String
  | c => "c"
  | pseint => "pseint"

/-- The name shown to people. -/
def displayName : Language → String
  | c => "C"
  | pseint => "PSeInt"

/-- The languages, in the order in which solutions are looked for. -/
def all : List Language :=
  [c, pseint]

/-- The language of a stored name; PSeInt has a second one. -/
def ofName? (name : String) : Option Language :=
  if name == "c" then some c
  else if name == "pseint" || name == "pseudocodigo" then some pseint
  else none

def solutionFile : Language → String
  | c => "solution.c"
  | pseint => "solution.psc"

theorem ofName?_name (language : Language) : ofName? language.name = some language := by
  cases language <;> decide

end Language

end Autograder
