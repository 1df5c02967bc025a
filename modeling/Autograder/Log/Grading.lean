import Autograder.Grading.Outcome
import Autograder.Json.Numeral
import Autograder.Log.Quoted
import Autograder.Log.Record
import Autograder.Rubric.Authored

/-!
# Records of grading

What grading tells about its steps. None of these records is graver than `DEBUG`.
-/

namespace Autograder.Log

open Autograder.Source Autograder.Text

def step (source message : String) : Record :=
  ⟨.debug, source, message⟩

/-- The language of a submission was detected. -/
def detection (code : List Char) : Record :=
  let (language, signature) := Language.recognize code
  step "evaluator::detector"
    ("detected language language=" ++ language.displayName ++ " signature=" ++ quoted signature)

/-- A submission was checked in its language. -/
def check (language : Language) (code : List Char) : Record :=
  let faults := "errors=" ++ toString (language.check code).length
  match language with
  | .c =>
    step "evaluator::validators::c_validator"
      ("validated C submission declared=" ++ toString (Check.C.declarationCount code) ++ " "
        ++ faults)
  | .pseint =>
    step "evaluator::validators::pseint_validator" ("validated PSeInt submission " ++ faults)

/-- The check came to its end. -/
def checkEnd (language : Language) (code : List Char) : Record :=
  step "evaluator"
    ("syntax validation finished language=" ++ language.displayName ++ " errors="
      ++ toString (language.check code).length)

/-- A submission was compared with the solution. -/
def comparison (result : Comparison) : List Record :=
  let similarity := "similarity=" ++ floatText result.similarity
  [step "evaluator::comparators::positional_comparator"
      ("compared submission against solution " ++ similarity ++ " total="
        ++ toString result.lineCount),
   step "evaluator" ("comparison finished " ++ similarity)]

/-- The steps of grading a submission against a solution. -/
def grading (student solution : List Char) (given : Option Language) : List Record :=
  let language := given.getD (Language.detect student)
  (if given.isNone then [detection student] else [])
    ++ [check language student, checkEnd language student]
    ++ (if (language.check student).isEmpty then
          comparison (Comparison.ofTexts (normalize student) (normalize solution))
        else [])

/-- A rule of the author's rubric was not met. -/
def unmet (result : RuleResult) : Record :=
  step "evaluator::rubric::fixed_rubric" ("rubric rule not matched rule=" ++ result.label)

/-- The steps of grading a submission by rules; there are none if the rubric is refused. -/
def ruleGrading (rules : List Rule) (code : List Char) : List Record :=
  match Rubric.gradeBy rules code with
  | .error _ => []
  | .ok report =>
    (report.results.filter fun result => !result.correct).map unmet
      ++ [step "evaluator"
            ("fixed rubric scored score=" ++ toString report.score ++ " max="
              ++ toString report.max)]

end Autograder.Log
