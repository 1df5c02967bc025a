import Autograder.CommandLine.Answer
import Autograder.Settings.EnvFile

/-!
# Runs of the program

A run on a file tree: the settings are read, the log is opened, the request is answered, and the
records are appended to the log.
-/

namespace Autograder.CommandLine

open Autograder.Storage

/-- What a run leaves behind. -/
structure Run where
  exitCode : Nat
  /-- What was printed. -/
  output : String := ""
  /-- What went wrong. -/
  failure : Option String := none
  /-- The records that were shown on the console. -/
  console : List Log.Record := []
  tree : FileTree

/-- The environment after the file that may set further variables, if it can be read. -/
def loadEnvironment (environment : Environment) (file : Except FileError String) : Environment :=
  match file with
  | .ok text => EnvFile.load environment text
  | .error _ => environment

/-- Opens a log: makes the directories that lead to it, and the file if it is missing. Gives the
bytes it holds. -/
def openLog (tree : FileTree) (path : String) : FileTree × Except FileError ByteArray :=
  let (tree, ready) := match Path.parent? path with
    | some parent => tree.makeDirectories parent
    | none => (tree, .ok ())
  match ready with
  | .error error => (tree, .error error)
  | .ok () =>
    match tree.read path with
    | .ok content => (tree, .ok content)
    | .error .missing =>
      match tree.write path .empty with
      | .ok grown => (grown, .ok .empty)
      | .error error => (tree, .error error)
    | .error error => (tree, .error error)

/-- The lines of a log with some more records. -/
def appendRecords (content : ByteArray) (records : List Log.Record) : ByteArray :=
  records.foldl (fun bytes record => bytes ++ (record.line ++ "\n").toUTF8) content

def Invocation.run (invocation : Invocation) (environment : Environment) (tree : FileTree) : Run :=
  let settings := Settings.ofEnvironment
    (loadEnvironment environment (tree.files.readText invocation.envFile))
  match openLog tree settings.logFile with
  | (tree, .error _) =>
    { exitCode := 1, failure := some ("Failed to open log file " ++ settings.logFile), tree }
  | (tree, .ok content) =>
    let answer := invocation.request.answer settings tree.files
    let records := keptRecords settings answer
    let console := if settings.logToConsole then records else []
    let tree := (tree.write settings.logFile (appendRecords content records)).toOption.getD tree
    match answer.result with
    | .ok json => { exitCode := 0, output := json.pretty ++ "\n", console, tree }
    | .error message => { exitCode := 1, failure := some message, console, tree }

end Autograder.CommandLine
