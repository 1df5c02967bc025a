import Autograder.Check.C
import Autograder.Comparison
import Autograder.Rubric.Criterion

/-!
# Rubrics derived from a solution

Each line of a reference solution contributes at most one criterion: a declaration with a value, an
assignment, an `if` or a `for`. A solution without such lines gets three general criteria. All
criteria count as met as soon as one line of the submission agrees with the solution.
-/

namespace Autograder

open Autograder.Text

/-- The shapes of lines that yield a criterion. -/
inductive LineRule where
  | declaration
  | assignment
  | conditional
  | loop
deriving DecidableEq, Repr

namespace LineRule

/-- The rules in the order in which they are tried. -/
def all : List LineRule :=
  [declaration, assignment, conditional, loop]

def name : LineRule → String
  | declaration => "declaracion"
  | assignment => "asignacion"
  | conditional => "condicional"
  | loop => "bucle"

def points : LineRule → Nat
  | declaration => 20
  | assignment => 15
  | conditional => 25
  | loop => 30

def kind : LineRule → CriterionKind
  | declaration => .declaration
  | assignment => .assignment
  | conditional => .conditional
  | loop => .loop

/-- The text before a final semicolon. -/
def beforeFinalSemicolon? (s : List Char) : Option (List Char) :=
  if s.getLast? == some ';' then some s.dropLast else none

/-- Whether a text is a value on one line with blanks around it. A value may itself be a blank, but
not a newline. -/
def isValue (s : List Char) : Bool :=
  match trim s with
  | [] => s.any (· != '\n')
  | core => core.all (· != '\n')

/-- Whether a text is a value with blanks around it that does not start with an equals sign. The
first character may be any other, the rest of the value stands on its line. -/
def isAssignedValue (s : List Char) : Bool :=
  match trimStart s with
  | [] => !s.isEmpty
  | '=' :: rest => s.head?.any isBlank && (trimEnd ('=' :: rest)).all (· != '\n')
  | _ :: rest => (trimEnd rest).all (· != '\n')

/-- The label for a declaration: a type, a name, an equals sign, a value and a semicolon. -/
def declarationLabel? (line : List Char) : Option String := do
  let (type, name, rest) ← Check.C.declarationHead? line
  match rest with
  | '=' :: rest => do
    let value ← beforeFinalSemicolon? rest
    if isValue value then
      some ("Declaración de la variable '" ++ String.ofList name ++ "' ("
        ++ String.ofList type ++ ")")
    else none
  | _ => none

/-- The label for an assignment: a name, an equals sign, a value and a semicolon. -/
def assignmentLabel? (line : List Char) : Option String := do
  let (name, rest) ← takeIdent? line
  match trimStart rest with
  | '=' :: rest => do
    let value ← beforeFinalSemicolon? rest
    if isAssignedValue value then
      some ("Asignación a la variable '" ++ String.ofList name ++ "'")
    else none
  | _ => none

/-- The text after a keyword and an opening parenthesis. -/
def afterParenthesis? (keyword : String) (line : List Char) : Option (List Char) :=
  if keyword.toList.isPrefixOf line then
    match trimStart (line.drop keyword.toList.length) with
    | '(' :: rest => some rest
    | _ => none
  else none

/-- The text before the last closing parenthesis of its first line. -/
def beforeLastParenthesis? (s : List Char) : Option (List Char) :=
  match (s.takeWhile (· != '\n')).reverse.dropWhile (· != ')') with
  | _ :: content => some content.reverse
  | [] => none

/-- The label for an `if` with a condition in parentheses; they close at the last one. -/
def conditionalLabel? (line : List Char) : Option String := do
  let rest ← afterParenthesis? "if" line
  let condition ← beforeLastParenthesis? rest
  if condition.isEmpty then none
  else some ("Condicional if (" ++ String.ofList (trim condition) ++ ")")

/-- The text up to the first occurrence of a character, and the text after it. -/
def cutAt? (c : Char) (s : List Char) : Option (List Char × List Char) :=
  match s.dropWhile (· != c) with
  | _ :: rest => some (s.takeWhile (· != c), rest)
  | [] => none

/-- The label for a `for` with its three parts in parentheses. -/
def loopLabel? (line : List Char) : Option String := do
  let rest ← afterParenthesis? "for" line
  let (first, rest) ← cutAt? ';' rest
  let (test, rest) ← cutAt? ';' rest
  let (advance, _) ← cutAt? ')' rest
  let part (s : List Char) := String.ofList (trim s)
  return "Bucle for (" ++ part first ++ "; " ++ part test ++ "; " ++ part advance ++ ")"

/-- The label of the rule's criterion for a line of its shape. -/
def label? : LineRule → List Char → Option String
  | declaration => declarationLabel?
  | assignment => assignmentLabel?
  | conditional => conditionalLabel?
  | loop => loopLabel?

/-- The rule's criterion for a line of its shape. -/
def criterion? (rule : LineRule) (line : List Char) : Option Criterion :=
  (rule.label? line).map fun label => { label, points := rule.points, kind := rule.kind }

end LineRule

namespace Rubric

/-- The criteria of a solution that yields none of its own. -/
def generalCriteria : List Criterion :=
  [{ label := "Estructura general", points := 40, kind := .outline },
   { label := "Declaraciones de variables", points := 30, kind := .declaration },
   { label := "Lógica y algoritmos", points := 30, kind := .logic }]

/-- The criterion of a line: that of the first rule whose shape it has. -/
def lineCriterion? (line : List Char) : Option Criterion :=
  LineRule.all.findSome? (·.criterion? line)

/-- The criteria of a solution's own lines. -/
def ownCriteria (solution : List Char) : List Criterion :=
  (lines solution).filterMap fun line => lineCriterion? (trim line)

def derive (solution : List Char) : List Criterion :=
  let criteria := ownCriteria solution
  if criteria.isEmpty then generalCriteria else criteria

/-- Assesses derived criteria. Without a comparison none is met. -/
def assess (criteria : List Criterion) (comparison : Option Comparison) : List Assessment :=
  let met := comparison.any fun comparison => !comparison.matched.isEmpty
  criteria.map (.ofCriterion · met)

end Rubric

end Autograder
