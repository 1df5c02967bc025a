import Autograder.Format.Exercise
import Autograder.Format.Rubric
import Autograder.Grading.Outcome

/-!
# Records of graded submissions

How faults, comparisons and outcomes are written and read. The similarity of an outcome is left out
when there is none.
-/

namespace Autograder

open Autograder.Check

namespace Check.FaultKind

def toJson (kind : FaultKind) : Json :=
  .ofString kind.name

def ofJson? (j : Json) : Option FaultKind :=
  j.tag?.bind fun name => [form, naming].find? fun kind => kind.name == name

end Check.FaultKind

namespace Check.Fault

def toJson (fault : Fault) : Json :=
  .ofFields [
    ("line", .ofNat fault.line),
    ("message", .ofString fault.message),
    ("kind", fault.kind.toJson)]

def ofJson? (j : Json) : Option Fault := do
  match ← j.record? [["line"], ["message"], ["kind"]] with
  | [line, message, kind] =>
    return {
      line := ← Json.required Json.nat64? line
      message := ← Json.required Json.string? message
      kind := ← Json.required FaultKind.ofJson? kind }
  | _ => none

end Check.Fault

namespace Stage

def toJson (stage : Stage) : Json :=
  .ofString stage.name

def ofJson? (j : Json) : Option Stage :=
  j.tag?.bind fun name => [faulty, scored].find? fun stage => stage.name == name

end Stage

namespace MatchedLine

def toJson (line : MatchedLine) : Json :=
  .ofFields [("line", .ofNat line.line), ("content", .ofString line.content)]

def ofJson? (j : Json) : Option MatchedLine := do
  match ← j.record? [["line"], ["content"]] with
  | [line, content] =>
    return {
      line := ← Json.required Json.nat64? line
      content := ← Json.required Json.string? content }
  | _ => none

end MatchedLine

namespace DiffLine

def toJson (line : DiffLine) : Json :=
  .ofFields [
    ("line", .ofNat line.line),
    ("expected", .ofString line.expected),
    ("actual", .ofString line.actual)]

def ofJson? (j : Json) : Option DiffLine := do
  match ← j.record? [["line"], ["expected"], ["actual"]] with
  | [line, expected, actual] =>
    return {
      line := ← Json.required Json.nat64? line
      expected := ← Json.required Json.string? expected
      actual := ← Json.required Json.string? actual }
  | _ => none

end DiffLine

namespace Comparison

def toJson (comparison : Comparison) : Json :=
  .ofFields [
    ("similarity", .ofFloat comparison.similarity),
    ("matched_lines", .ofList MatchedLine.toJson comparison.matched),
    ("diff_lines", .ofList DiffLine.toJson comparison.diffs)]

def ofJson? (j : Json) : Option Comparison := do
  match ← j.record? [["similarity"], ["matched_lines"], ["diff_lines"]] with
  | [similarity, matched, diffs] =>
    return {
      similarity := ← Json.required Json.float? similarity
      matched := ← Json.required (Json.list? MatchedLine.ofJson?) matched
      diffs := ← Json.required (Json.list? DiffLine.ofJson?) diffs }
  | _ => none

end Comparison

namespace Details

/-- The particulars, with null for a missing comparison. -/
def toJson (details : Details) : Json :=
  .ofFields [
    ("errores", .ofList Fault.toJson details.faults),
    ("comparacion", .ofOption Comparison.toJson details.comparison),
    ("puntaje_rubrica", .ofFloat details.rubricScore)]

def ofJson? (j : Json) : Option Details := do
  match ← j.record? [["errores"], ["comparacion"], ["puntaje_rubrica"]] with
  | [faults, comparison, rubricScore] =>
    return {
      faults := ← Json.required (Json.list? Fault.ofJson?) faults
      comparison := ← Json.nullable Comparison.ofJson? comparison
      rubricScore := ← Json.required Json.float? rubricScore }
  | _ => none

end Details

namespace Outcome

/-- The outcome, with its similarity if there is one. -/
def toJson (outcome : Outcome) : Json :=
  .ofFields ([
    ("success", .bool outcome.success),
    ("feedback", .ofList .ofString outcome.feedback),
    ("score", .ofNat outcome.score),
    ("rubric", .ofList Assessment.toJson outcome.rubric),
    ("language", outcome.language.toJson),
    ("tipo_errores", outcome.stage.toJson)]
    ++ Json.optionalField "similaridad" .ofFloat outcome.similarity ++ [
    ("detalles", outcome.details.toJson),
    ("recomendaciones", .ofList .ofString outcome.recommendations),
    ("resumen", .ofString outcome.summary)])

def ofJson? (j : Json) : Option Outcome := do
  match ← j.record? [["success"], ["feedback"], ["score"], ["rubric"], ["language"],
      ["tipo_errores"], ["similaridad"], ["detalles"], ["recomendaciones"], ["resumen"]] with
  | [success, feedback, score, rubric, language, stage, similarity, details, recommendations,
      summary] =>
    return {
      success := ← Json.required Json.bool? success
      feedback := ← Json.required (Json.list? Json.string?) feedback
      score := ← Json.required Json.nat32? score
      rubric := ← Json.required (Json.list? Assessment.ofJson?) rubric
      language := ← Json.required Language.ofJson? language
      stage := ← Json.required Stage.ofJson? stage
      similarity := ← Json.nullable Json.float? similarity
      details := ← Json.required Details.ofJson? details
      recommendations := ← Json.required (Json.list? Json.string?) recommendations
      summary := ← Json.required Json.string? summary }
  | _ => none

end Outcome

end Autograder
