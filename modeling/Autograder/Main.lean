import Autograder.CommandLine.Run

/-!
# The command line

Reads what a run needs, has it answered, and writes what it leaves behind.
-/

namespace Autograder.CommandLine

open Autograder.Storage

def usage : String :=
  "Evaluate C and PSeInt exercises\n\n"
  ++ "Usage: evaluate [OPTIONS] <COMMAND>\n\n"
  ++ "Commands:\n"
  ++ "  practice  Compare a submission with a reference solution\n"
  ++ "            --student <FILE> --solution <FILE> [--language <c|pseint>]\n"
  ++ "  exam      Score a submission against a rubric.json\n"
  ++ "            --student <FILE> --rubric <FILE>\n"
  ++ "  submit    Submit to a stored exercise below STORAGE_ROOT\n"
  ++ "            --unit <UNIT> --exercise <EXERCISE> --user <USER> --student <FILE>\n\n"
  ++ "Options:\n"
  ++ "      --env <ENV>  Path of the .env file to load [default: .env]\n"
  ++ "  -h, --help       Print help\n"
  ++ "  -V, --version    Print version"

def versionLine : String :=
  "evaluate 0.1.0"

/-- The cause of an error of the operating system. -/
def causeOf : IO.Error → FileError
  | .noFileOrDirectory .. => .missing
  | .alreadyExists .. => .occupied
  | .inappropriateType _ 20 _ => .notDirectory
  | .inappropriateType .. => .isDirectory
  | .permissionDenied .. => .permissionDenied
  | .invalidArgument _ 36 _ => .nameTooLong
  | _ => .nulInPath

def readFile (path : String) : IO (Except FileError ByteArray) := do
  try
    return .ok (← IO.FS.readBinFile path)
  catch error =>
    return .error (causeOf error)

def readEnvironment : IO Environment :=
  Settings.variableNames.filterMapM fun name => do
    return (← IO.getEnv name).map (name, ·)

/-- Opens the log for appending, and makes the directories that lead to it. -/
def openLogFile (path : String) : IO IO.FS.Handle := do
  match Path.parent? path with
  | some parent => IO.FS.createDirAll (if Path.isAbsolute path then "/" ++ parent else parent)
  | none => pure ()
  IO.FS.Handle.mk path .append

/-- Answers an invocation and gives the exit code. -/
def Invocation.perform (invocation : Invocation) : IO UInt32 := do
  let envFile := (← readFile invocation.envFile) >>= Files.decode
  let settings := Settings.ofEnvironment (loadEnvironment (← readEnvironment) envFile)
  let log ← try
      openLogFile settings.logFile
    catch _ =>
      IO.eprintln ("Error: Failed to open log file " ++ settings.logFile)
      return 1
  let contents ← (invocation.request.paths settings).mapM fun path => do
    return (path, ← readFile path)
  let answer := invocation.request.answer settings (.ofList contents)
  for record in keptRecords settings answer do
    log.putStrLn record.line
    if settings.logToConsole then IO.eprintln record.line
  match answer.result with
  | .ok json =>
    IO.println json.pretty
    return 0
  | .error message =>
    IO.eprintln ("Error: " ++ message)
    return 1

end Autograder.CommandLine

open Autograder.CommandLine in
/-- The program: grades submissions as the arguments ask for. -/
def main (arguments : List String) : IO UInt32 :=
  match read arguments with
  | .ok invocation => invocation.perform
  | .error .help => do
    IO.println usage
    return 0
  | .error .version => do
    IO.println versionLine
    return 0
  | .error .badArguments => do
    IO.eprintln usage
    return 2
