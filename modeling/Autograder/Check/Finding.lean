import Autograder.Check.Construct

/-!
# Findings of the syntax checks

A check reports what is wrong and on which line; line 0 stands for the whole text. A finding is
turned into the fault that is shown to the student, with its message and its kind.
-/

namespace Autograder.Check

/-- What a check can find wrong. -/
inductive Cause where
  /-- The line does not end in a semicolon. -/
  | missingSemicolon
  /-- The name is used in a C program that does not declare it. -/
  | undeclared (name : List Char)
  /-- The name is assigned before it is defined. -/
  | undefined (name : List Char)
  /-- The construct is closed while none is open. -/
  | nothingOpen (closing : Construct)
  /-- The construct is closed while another one, opened on the given line, is innermost. -/
  | wrongCloser (closing innermost : Construct) (openedAt : Nat)
  /-- A definition without the shape of one. -/
  | malformedDefinition
  /-- A `Si` without a condition. -/
  | missingCondition
  /-- A `Para` without the shape of one. -/
  | malformedFor
  /-- The construct is still open at the end. -/
  | unclosed (construct : Construct) (openedAt : Nat)
deriving DecidableEq

structure Finding where
  line : Nat
  cause : Cause
deriving DecidableEq

/-- The two kinds of faults: of form, and of names. -/
inductive FaultKind where
  | form
  | naming
deriving DecidableEq, Repr

def FaultKind.name : FaultKind → String
  | form => "sintaxis"
  | naming => "variable"

/-- A fault as it is shown. -/
structure Fault where
  line : Nat
  message : String
  kind : FaultKind
deriving DecidableEq

namespace Finding

def kind (finding : Finding) : FaultKind :=
  match finding.cause with
  | .undeclared _ | .undefined _ => .naming
  | _ => .form

def message (finding : Finding) : String :=
  match finding.cause with
  | .missingSemicolon =>
    "Falta punto y coma (;) al final de la línea " ++ toString finding.line
  | .undeclared name => "La variable '" ++ String.ofList name ++ "' no está declarada"
  | .undefined name => "La variable '" ++ String.ofList name ++ "' no fue definida"
  | .nothingOpen closing =>
    "'" ++ closing.closer ++ "' inesperado: no hay ninguna estructura abierta"
  | .wrongCloser closing innermost openedAt =>
    "'" ++ closing.closer ++ "' inesperado: se esperaba '" ++ innermost.closer
      ++ "' para cerrar '" ++ innermost.name ++ "' (línea " ++ toString openedAt ++ ")"
  | .malformedDefinition =>
    "Declaración mal formada: se esperaba 'Definir <variable> Como <Tipo>'"
  | .missingCondition => "La estructura 'Si' necesita una condición"
  | .malformedFor =>
    "Estructura 'Para' mal formada: se esperaba 'Para <variable> <- <inicio> Hasta <fin>'"
  | .unclosed construct openedAt =>
    "La estructura '" ++ construct.name ++ "' abierta en la línea " ++ toString openedAt
      ++ " no fue cerrada (falta '" ++ construct.closer ++ "')"

/-- The fault that a finding is shown as. -/
def fault (finding : Finding) : Fault where
  line := finding.line
  message := finding.message
  kind := finding.kind

end Finding

end Autograder.Check
