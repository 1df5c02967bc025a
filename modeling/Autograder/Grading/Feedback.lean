import Autograder.Check.Finding
import Autograder.Comparison
import Autograder.Number.Rounding
import Autograder.Rubric.Criterion

/-!
# Feedback

What a student is told about a submission. A feedback style composes the messages and the
recommendations; the standard one words them by bands of similarity.
-/

namespace Autograder

open Autograder.Check Autograder.Number

/-- A way to word feedback, for scored submissions and for those with faults. -/
structure FeedbackStyle where
  messages : Comparison → List Assessment → List String
  recommendations : Float → List String
  faultMessages : List Fault → List String
  faultRecommendations : List String

namespace Feedback

def metHeading : String := "✅ Aspectos correctos:"

def missedHeading : String := "❌ Aspectos a mejorar:"

/-- The first sentence, by band of similarity. -/
def headline (similarity : Float) : String :=
  if 90.0 ≤ similarity then
    "🎉 ¡Excelente! Tu código es prácticamente idéntico a la solución esperada."
  else if 70.0 ≤ similarity then
    "👍 ¡Muy bien! La estructura de tu código es correcta."
  else if 50.0 ≤ similarity then
    "📈 Buen avance, pero tu código necesita algunos ajustes."
  else
    "💪 Tu código necesita más trabajo. Revisa el enunciado y vuelve a intentarlo."

def metLine (assessment : Assessment) : String :=
  "  • " ++ assessment.criterion.label ++ " (+" ++ toString assessment.awarded ++ " pts)"

def missedLine (assessment : Assessment) : String :=
  "  • " ++ assessment.criterion.label

/-- A heading and its lines; nothing if there are no lines. -/
def titled (heading : String) : List String → List String
  | [] => []
  | line :: lines => heading :: line :: lines

/-- The last line, with the similarity in percent. -/
def similarityLine (similarity : Float) : String :=
  "📊 Similitud con la solución: " ++ onePlace similarity ++ "%"

def messages (comparison : Comparison) (assessments : List Assessment) : List String :=
  let (met, missed) := assessments.partition Assessment.satisfied
  headline comparison.similarity
    :: titled metHeading (met.map metLine)
    ++ titled missedHeading (missed.map missedLine)
    ++ [similarityLine comparison.similarity]

/-- What to do next, by band of similarity. -/
def recommendations (similarity : Float) : List String :=
  if similarity < 30.0 then
    ["Revisa el enunciado y asegúrate de entender qué se pide.",
     "Repasa la teoría de la unidad y los ejemplos resueltos."]
  else if similarity < 50.0 then
    ["Revisa la declaración e inicialización de tus variables.",
     "Verifica que las estructuras de control sigan la lógica pedida."]
  else if similarity < 70.0 then
    ["Vas por buen camino: revisa los valores y nombres que usaste.",
     "Comprueba el orden de las instrucciones."]
  else []

/-- The message for a fault, with its line if it has one. -/
def faultMessage (fault : Fault) : String :=
  if 0 < fault.line then "Línea " ++ toString fault.line ++ ": " ++ fault.message
  else fault.message

/-- What to look for after a fault. -/
def faultRecommendations : List String :=
  ["Verifica que cada instrucción termine en punto y coma (;).",
   "Asegúrate de declarar todas las variables antes de usarlas.",
   "Comprueba que cada estructura abierta (if, for, Si, Para...) esté bien cerrada."]

def standard : FeedbackStyle where
  messages := messages
  recommendations := recommendations
  faultMessages := (·.map faultMessage)
  faultRecommendations := faultRecommendations

def faultSummary (count : Nat) : String :=
  if count == 1 then "Se encontró 1 error de sintaxis"
  else "Se encontraron " ++ toString count ++ " errores de sintaxis"

def scoreSummary (score : Nat) (similarity : Float) (passed : Bool) : String :=
  let verdict := if passed then "Aprobado" else "No aprobado"
  "Puntuación: " ++ toString score ++ "/100 · Similitud: " ++ onePlace similarity ++ "% · "
    ++ verdict

end Feedback

end Autograder
