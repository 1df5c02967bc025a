import Autograder.Storage.Path

/-!
# Settings

The settings of the program are taken from variables of its environment. Each has a value of its own
when its variable is not set.
-/

namespace Autograder

open Autograder.Storage

/-- The variables that are set, with their values. -/
abbrev Environment := List (String × String)

structure Settings where
  projectName : String
  logLevel : String
  logFile : String
  logToConsole : Bool
  storageRoot : String
deriving DecidableEq

namespace Settings

/-- The variables that are looked at. -/
def variableNames : List String :=
  ["PROJECT_NAME", "LOG_LEVEL", "LOG_FILE", "LOG_TO_CONSOLE", "STORAGE_ROOT"]

/-- The settings that an environment gives. The console is left out for the value `false` only. -/
def ofEnvironment (environment : Environment) : Settings where
  projectName := (environment.lookup "PROJECT_NAME").getD "code-evaluator"
  logLevel := (environment.lookup "LOG_LEVEL").getD "info"
  logFile := (environment.lookup "LOG_FILE").getD "logs/evaluator.log"
  logToConsole := (environment.lookup "LOG_TO_CONSOLE") != some "false"
  storageRoot := (environment.lookup "STORAGE_ROOT").getD "./data/exercises"

/-- The storage root as seen from everywhere, given the directory that the program runs in. -/
def absoluteRoot (settings : Settings) (currentDirectory : String) : String :=
  Path.join currentDirectory settings.storageRoot

end Settings

end Autograder
