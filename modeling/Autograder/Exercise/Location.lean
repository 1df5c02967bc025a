import Autograder.Language.Basic
import Autograder.Storage.Path

/-!
# Where exercises are stored

The directory of an exercise stands within that of its unit, below the storage root. Units and
exercises are named by texts of any kind, and the paths made of them are not simplified.
-/

namespace Autograder

open Autograder.Storage

/-- An exercise within a unit. -/
structure ExerciseId where
  unit : String
  name : String
deriving DecidableEq

namespace ExerciseId

def unitDirectory (root unit : String) : String :=
  Path.join root ("unit_" ++ unit)

def directory (id : ExerciseId) (root : String) : String :=
  Path.join (unitDirectory root id.unit) ("exercise_" ++ id.name)

def file (id : ExerciseId) (root name : String) : String :=
  Path.join (id.directory root) name

def configFile (id : ExerciseId) (root : String) : String :=
  id.file root "config.json"

def rubricFile (id : ExerciseId) (root : String) : String :=
  id.file root "rubric.json"

def solutionFile (id : ExerciseId) (root : String) (language : Language) : String :=
  id.file root language.solutionFile

end ExerciseId

end Autograder
