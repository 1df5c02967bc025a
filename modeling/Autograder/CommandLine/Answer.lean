import Autograder.CommandLine.Request
import Autograder.Format.Submission
import Autograder.Log.Submission
import Autograder.Settings.Basic

/-!
# Answers to requests

A request is answered from the files it names: with a value to be printed, or with a sentence on
what went wrong. What it tells on the way is kept in order.
-/

namespace Autograder.CommandLine

open Autograder.Storage

/-- An answer, and what was told on the way to it. -/
structure Answer where
  records : List Log.Record := []
  result : Except String Json

/-- An answer that failed early. -/
def Answer.failure (message : String) : Answer :=
  { result := .error message }

/-- The deepest nesting of a rubric that is given as a file. -/
def nestingLimit : Nat := 127

/-- The rules of a rubric that is given as a file: a stored rubric, or the rules alone. -/
def rulesOfText? (text : String) : Option (List Rule) := do
  let j ← Json.parse? text
  if j.depth ≤ nestingLimit && j.isReadable then
    ((RubricFile.ofJson? j).map RubricFile.rules).or (Json.list? Rule.ofJson? j)
  else none

def readNamed (files : Files) (path : String) : Except String String :=
  (files.readText path).mapError fun _ => "Failed to read " ++ path

def answerPractice (student solution : String) (language : Option Language) : Answer where
  records := Log.grading student.toList solution.toList language
  result := .ok (grade student.toList solution.toList language).toJson

def answerExam (student : String) (rules : List Rule) : Answer where
  records := Log.ruleGrading rules student.toList
  result :=
    match Rubric.gradeBy rules student.toList with
    | .ok report => .ok report.toJson
    | .error fault => .error fault.message

/-- Answers with the result of a submission, which nobody submitted before. -/
def answerSubmit (exercises : Exercises) (attempt : Attempt) (code : String) : Answer :=
  let submitted := attempt.submit exercises {} code
  { records :=
      Log.beforeAudit attempt exercises {} code ++ [submitted.entry.record]
        ++ Log.afterAudit attempt exercises {} code
    result := (submitted.result.map SubmissionResult.toJson).mapError SubmissionError.message }

namespace Request

/-- Answers a request, or says why a file that it names cannot be used. -/
def answer? (request : Request) (settings : Settings) (files : Files) :
    Except String Answer := do
  match request with
  | practice student solution language =>
    let student ← readNamed files student
    let solution ← readNamed files solution
    return answerPractice student solution language
  | exam student rubric =>
    let student ← readNamed files student
    let text ← readNamed files rubric
    match rulesOfText? text with
    | some rules => return answerExam student rules
    | none => .error ("Invalid rubric JSON in " ++ rubric)
  | submit attempt student =>
    let code ← readNamed files student
    return answerSubmit ⟨files, settings.storageRoot⟩ attempt code

def answer (request : Request) (settings : Settings) (files : Files) : Answer :=
  match request.answer? settings files with
  | .ok answer => answer
  | .error message => .failure message

/-- The paths that answering a request may read. -/
def paths (request : Request) (settings : Settings) : List String :=
  match request with
  | practice student solution _ => [student, solution]
  | exam student rubric => [student, rubric]
  | submit attempt student =>
    let id := attempt.exercise
    let root := settings.storageRoot
    [student, id.directory root, id.configFile root, id.rubricFile root]
      ++ Language.all.map (id.solutionFile root)

end Request

/-- The records of an invocation that the log level keeps, in order. -/
def keptRecords (settings : Settings) (answer : Answer) : List Log.Record :=
  (Log.Level.ofText settings.logLevel).select
    (Log.step "evaluate" (settings.projectName ++ " starting") :: answer.records)

end Autograder.CommandLine
