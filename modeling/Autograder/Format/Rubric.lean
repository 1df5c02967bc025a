import Autograder.Json.Decode
import Autograder.Rubric.Report

/-!
# Records of assessments and reports

How criteria, their assessments and the reports on authors' rubrics are written and read. The hint
of a criterion is left out when there is none.
-/

namespace Autograder

namespace CriterionKind

def toJson (kind : CriterionKind) : Json :=
  .ofString kind.name

def ofJson? (j : Json) : Option CriterionKind :=
  j.tag?.bind fun name => all.find? fun kind => kind.name == name

end CriterionKind

namespace Criterion

/-- The criterion, with its hint if it has one. -/
def toJson (criterion : Criterion) : Json :=
  .ofFields ([
    ("label", .ofString criterion.label),
    ("points", .ofNat criterion.points),
    ("kind", criterion.kind.toJson)] ++ Json.optionalField "hint" .ofString criterion.hint)

def ofJson? (j : Json) : Option Criterion := do
  match ← j.record? [["label"], ["points"], ["kind"], ["hint"]] with
  | [label, points, kind, hint] =>
    return {
      label := ← Json.required Json.string? label
      points := ← Json.required Json.nat32? points
      kind := ← Json.required CriterionKind.ofJson? kind
      hint := ← Json.nullable Json.string? hint }
  | _ => none

end Criterion

namespace Assessment

def toJson (assessment : Assessment) : Json :=
  .ofFields [
    ("criterion", assessment.criterion.toJson),
    ("points_awarded", .ofNat assessment.awarded),
    ("satisfied", .bool assessment.satisfied)]

def ofJson? (j : Json) : Option Assessment := do
  match ← j.record? [["criterion"], ["points_awarded"], ["satisfied"]] with
  | [criterion, awarded, satisfied] =>
    return {
      criterion := ← Json.required Criterion.ofJson? criterion
      awarded := ← Json.required Json.nat32? awarded
      satisfied := ← Json.required Json.bool? satisfied }
  | _ => none

end Assessment

namespace RuleResult

def toJson (result : RuleResult) : Json :=
  .ofFields [
    ("label", .ofString result.label),
    ("correct", .bool result.correct),
    ("points_awarded", .ofNat result.awarded),
    ("points_total", .ofNat result.total),
    ("feedback", .ofString result.feedback)]

def ofJson? (j : Json) : Option RuleResult := do
  match ← j.record? [["label"], ["correct"], ["points_awarded"], ["points_total"],
      ["feedback"]] with
  | [label, correct, awarded, total, feedback] =>
    return {
      label := ← Json.required Json.string? label
      correct := ← Json.required Json.bool? correct
      awarded := ← Json.required Json.nat32? awarded
      total := ← Json.required Json.nat32? total
      feedback := ← Json.required Json.string? feedback }
  | _ => none

end RuleResult

namespace Report

def toJson (report : Report) : Json :=
  .ofFields [
    ("score", .ofNat report.score),
    ("max", .ofNat report.max),
    ("details", .ofList RuleResult.toJson report.results)]

def ofJson? (j : Json) : Option Report := do
  match ← j.record? [["score"], ["max"], ["details"]] with
  | [score, max, results] =>
    return {
      score := ← Json.required Json.nat32? score
      max := ← Json.required Json.nat32? max
      results := ← Json.required (Json.list? RuleResult.ofJson?) results }
  | _ => none

end Report

end Autograder
