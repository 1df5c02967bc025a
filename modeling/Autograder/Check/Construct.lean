/-!
# Block constructs

The constructs of the pseudocode that are opened by a header line and closed by a line of their
own.
-/

namespace Autograder.Check

/-- A construct with a body. -/
inductive Construct where
  | si
  | para
  | mientras
  | repetir
  | segun
  | proceso
  | algoritmo
deriving DecidableEq, Repr

namespace Construct

def all : List Construct :=
  [si, para, mientras, repetir, segun, proceso, algoritmo]

/-- The word that opens the construct. -/
def name : Construct → String
  | si => "Si"
  | para => "Para"
  | mientras => "Mientras"
  | repetir => "Repetir"
  | segun => "Segun"
  | proceso => "Proceso"
  | algoritmo => "Algoritmo"

def closer : Construct → String
  | si => "FinSi"
  | para => "FinPara"
  | mientras => "FinMientras"
  | repetir => "Hasta Que"
  | segun => "FinSegun"
  | proceso => "FinProceso"
  | algoritmo => "FinAlgoritmo"

end Construct

end Autograder.Check
