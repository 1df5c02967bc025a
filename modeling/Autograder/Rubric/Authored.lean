import Autograder.Pattern.Basic
import Autograder.Rubric.Report
import Autograder.Rubric.Rule
import Autograder.Source.Normal

/-!
# Grading by an author's rubric

The rules of a rubric are checked before any submission is looked at. Each rule then is a criterion,
which a submission meets if the rule's pattern occurs in its normal form.
-/

namespace Autograder

inductive RubricFault where
  | noRules
  /-- A rule is worth nothing. -/
  | worthless (label : String)
  /-- A rule's pattern is refused. -/
  | badPattern (label : String) (refusal : Pattern.Refusal)
deriving DecidableEq

/-- The description of a fault; that of a pattern without its details. -/
def RubricFault.message : RubricFault → String
  | noRules => "rubric has no rules"
  | worthless label => "invalid rubric: rule '" ++ label ++ "' awards no points"
  | badPattern label refusal =>
    "invalid pattern for rubric rule '" ++ label ++ "': " ++ refusal.message

/-- A rule that was checked, with the pattern that it writes. -/
structure CheckedRule where
  rule : Rule
  pattern : Pattern.Node

namespace CheckedRule

def criterion (checked : CheckedRule) : Criterion where
  label := checked.rule.label
  points := checked.rule.points
  kind := .rule
  hint := some checked.rule.feedback

def assess (checked : CheckedRule) (text : List Char) : Assessment :=
  .ofCriterion checked.criterion (checked.pattern.occursIn text)

end CheckedRule

/-- Checks a rule: first its points, then its pattern. -/
def Rule.check (rule : Rule) : Except RubricFault CheckedRule :=
  if rule.points == 0 then .error (.worthless rule.label)
  else match Pattern.parse rule.pattern with
    | .ok pattern => .ok { rule, pattern }
    | .error refusal => .error (.badPattern rule.label refusal)

namespace Rubric

/-- Checks the rules of a rubric in order. -/
def check (rules : List Rule) : Except RubricFault (List CheckedRule) :=
  if rules.isEmpty then .error .noRules else rules.mapM Rule.check

/-- The report on a text, taken as it is. Its points are counted in 32 bits. -/
def report (checked : List CheckedRule) (text : List Char) : Report :=
  let results := checked.map fun rule => RuleResult.ofAssessment (rule.assess text)
  { score := Number.total32 (results.map RuleResult.awarded)
    max := totalPoints (checked.map CheckedRule.criterion)
    results }

/-- Grades a submission by rules, in normal form. -/
def gradeBy (rules : List Rule) (code : List Char) : Except RubricFault Report :=
  (check rules).map fun checked => report checked (Source.normalize code)

end Rubric

end Autograder
