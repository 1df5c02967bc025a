import Autograder.Check.Finding
import Autograder.Check.PseintLine
import Autograder.Source.LineComment

/-!
# The check of pseudocode

Open constructs are kept on a stack. A closer must name the innermost one, and what is still open at
the end is reported by the line of its header. Variables must be defined above the line that assigns
to them, and a statement outside all constructs ends in a semicolon.
-/

namespace Autograder.Check.Pseint

open Autograder.Text Autograder.Source

/-- What the check knows above a line: the defined names in lowercase, and the open constructs with
the lines of their headers, innermost first. -/
structure Scope where
  defined : List (List Char) := []
  opened : List (Construct × Nat) := []
deriving DecidableEq

namespace Scope

/-- Closes a construct, if it is the innermost one. -/
def close (scope : Scope) (closing : Construct) : Scope × Option Cause :=
  match scope.opened with
  | [] => (scope, some (.nothingOpen closing))
  | (innermost, openedAt) :: outer =>
    if innermost = closing then ({ scope with opened := outer }, none)
    else (scope, some (.wrongCloser closing innermost openedAt))

/-- What is wrong with a header that lacks what its construct needs. -/
def headerCause : Construct → Cause
  | .para => .malformedFor
  | _ => .missingCondition

/-- Reads one line; there is at most one thing wrong with it. -/
def step (scope : Scope) (line : Nat) : LineForm → Scope × Option Cause
  | .closer (some construct) => scope.close construct
  | .closer none => (scope, none)
  | .separator => (scope, none)
  | .definition (some names) => ({ scope with defined := names ++ scope.defined }, none)
  | .definition none => (scope, some .malformedDefinition)
  | .header construct wellFormed =>
    ({ scope with opened := (construct, line) :: scope.opened },
      if wellFormed then none else some (headerCause construct))
  | .assignment name =>
    (scope, if scope.defined.contains (lowercase name) then none else some (.undefined name))
  | .statement terminated =>
    (scope, if scope.opened.isEmpty && !terminated then some .missingSemicolon else none)

/-- Reads numbered lines in order. -/
def run (scope : Scope) : List (LineForm × Nat) → Scope × List Finding
  | [] => (scope, [])
  | (form, line) :: rest =>
    let (next, cause) := scope.step line form
    let (last, findings) := next.run rest
    (last, (cause.map (Finding.mk line)).toList ++ findings)

/-- The findings for constructs that are still open, outermost first. -/
def unclosed (scope : Scope) : List Finding :=
  scope.opened.reverse.map fun (construct, openedAt) => ⟨0, .unclosed construct openedAt⟩

end Scope

/-- A line without its comment and surrounding blanks. -/
def statementOf (line : List Char) : List Char :=
  trim (stripLineComment (trim line))

def numberedForms (code : List Char) : List (LineForm × Nat) :=
  ((lines code).zipIdx 1).filterMap fun (line, n) =>
    let statement := statementOf line
    if statement.isEmpty then none else some (classify statement, n)

def check (code : List Char) : List Finding :=
  let (scope, findings) := Scope.run {} (numberedForms code)
  findings ++ scope.unclosed

end Autograder.Check.Pseint
