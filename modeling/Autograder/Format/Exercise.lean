import Autograder.Exercise.Config
import Autograder.Json.Decode
import Autograder.Rubric.Rule

/-!
# Stored records of exercises

How configurations and authors' rubrics are written and read. Every field of a configuration may be
left out, and of a rubric all but the rules.
-/

namespace Autograder

open Autograder.Time

namespace Language

def toJson (language : Language) : Json :=
  .ofString language.name

def ofJson? (j : Json) : Option Language :=
  j.tag?.bind ofName?

end Language

namespace ExerciseKind

def toJson (kind : ExerciseKind) : Json :=
  .ofString kind.name

def ofJson? (j : Json) : Option ExerciseKind :=
  j.tag?.bind fun name => [practice, evaluation].find? fun kind => kind.name == name

end ExerciseKind

namespace ExerciseConfig

def toJson (config : ExerciseConfig) : Json :=
  .ofFields [
    ("kind", config.kind.toJson),
    ("language", .ofOption Language.toJson config.language),
    ("single_attempt", .bool config.singleAttempt)]

def ofJson? (j : Json) : Option ExerciseConfig := do
  match ← j.record? [["kind"], ["language"], ["single_attempt"]] with
  | [kind, language, singleAttempt] =>
    return {
      kind := ← Json.withDefault .practice ExerciseKind.ofJson? kind
      language := ← Json.nullable Language.ofJson? language
      singleAttempt := ← Json.withDefault true Json.bool? singleAttempt }
  | _ => none

end ExerciseConfig

namespace Rule

def toJson (rule : Rule) : Json :=
  .ofFields [
    ("label", .ofString rule.label),
    ("pattern", .ofString rule.pattern),
    ("points", .ofNat rule.points),
    ("feedback", .ofString rule.feedback)]

/-- Reads a rule. The pattern may also be named `regex`, and the feedback may be left out. -/
def ofJson? (j : Json) : Option Rule := do
  match ← j.record? [["label"], ["pattern", "regex"], ["points"], ["feedback"]] with
  | [label, pattern, points, feedback] =>
    return {
      label := ← Json.required Json.string? label
      pattern := ← Json.required Json.string? pattern
      points := ← Json.required Json.nat32? points
      feedback := ← Json.withDefault "" Json.string? feedback }
  | _ => none

end Rule

def Time.Timestamp.toJson (t : Timestamp) : Json :=
  .ofString t.write

def Time.Timestamp.ofJson? (j : Json) : Option Timestamp :=
  j.string?.bind Timestamp.parse?

namespace RubricFile

def toJson (file : RubricFile) : Json :=
  .ofFields [
    ("updated_at", file.updatedAt.toJson),
    ("rules", .ofList Rule.toJson file.rules),
    ("total_points", .ofNat file.totalPoints)]

def ofJson? (j : Json) : Option RubricFile := do
  match ← j.record? [["updated_at"], ["rules"], ["total_points"]] with
  | [updatedAt, rules, totalPoints] =>
    return {
      updatedAt := ← Json.withDefault .epoch Timestamp.ofJson? updatedAt
      rules := ← Json.required (Json.list? Rule.ofJson?) rules
      totalPoints := ← Json.withDefault 0 Json.nat32? totalPoints }
  | _ => none

end RubricFile

end Autograder
