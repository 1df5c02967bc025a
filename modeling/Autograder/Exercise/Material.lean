import Autograder.Exercise.Location
import Autograder.Format.Exercise
import Autograder.Json.Reader
import Autograder.Json.Writer
import Autograder.Storage.FileTree

/-!
# Exercise material

The directory of an exercise holds its configuration, a reference solution in one of the languages,
and the author's rubric if it is an evaluation. A missing configuration stands for the one by
default.
-/

namespace Autograder

open Autograder.Storage

/-- Why the material of an exercise cannot be had. -/
inductive MaterialFault where
  | unreadableConfig (error : FileError)
  | malformedConfig
  | unreadableRubric (error : FileError)
  | malformedRubric
  | unreadableSolution (path : String) (error : FileError)
  | noSolution (id : ExerciseId)
deriving DecidableEq

def MaterialFault.message : MaterialFault → String
  | unreadableConfig .permissionDenied => "Permission denied reading exercise config"
  | unreadableConfig error => "Failed to read exercise config (" ++ error.kind ++ ")"
  | malformedConfig => "Invalid exercise config JSON"
  | unreadableRubric .missing => "File not found"
  | unreadableRubric .permissionDenied => "Permission denied reading rubric"
  | unreadableRubric .notText => "Rubric file is not valid UTF-8"
  | unreadableRubric error => "Failed to read rubric (" ++ error.kind ++ ")"
  | malformedRubric => "Invalid rubric JSON"
  | unreadableSolution path error => "Failed to read " ++ path ++ ": " ++ error.message
  | noSolution id => "No solution file for unit " ++ id.unit ++ ", exercise " ++ id.name

/-- The stored exercises: the files that can be read, and the path of the storage root. -/
structure Exercises where
  files : Files
  root : String

namespace Exercises

def has (exercises : Exercises) (id : ExerciseId) : Bool :=
  exercises.files.isDirectory (id.directory exercises.root)

/-- The configuration of an exercise. -/
def config (exercises : Exercises) (id : ExerciseId) : Except MaterialFault ExerciseConfig :=
  match exercises.files.readText (id.configFile exercises.root) with
  | .error .missing => .ok {}
  | .error error => .error (.unreadableConfig error)
  | .ok text =>
    match (Json.parse? text).bind ExerciseConfig.ofJson? with
    | some config => .ok config
    | none => .error .malformedConfig

/-- The author's rubric, with the total that its rules give. -/
def rubric (exercises : Exercises) (id : ExerciseId) : Except MaterialFault RubricFile :=
  match exercises.files.readText (id.rubricFile exercises.root) with
  | .error error => .error (.unreadableRubric error)
  | .ok text =>
    match (Json.parse? text).bind RubricFile.ofJson? with
    | some file => .ok file.withTotal
    | none => .error .malformedRubric

/-- The first solution in one of the languages. One that is there but cannot be read is not passed
over. -/
def firstSolution (exercises : Exercises) (id : ExerciseId) :
    List Language → Except MaterialFault String
  | [] => .error (.noSolution id)
  | language :: others =>
    let path := id.solutionFile exercises.root language
    match exercises.files.readText path with
    | .ok text => .ok text
    | .error .missing => exercises.firstSolution id others
    | .error error => .error (.unreadableSolution path error)

/-- The reference solution: in the language that the configuration names, or else in any. -/
def solution (exercises : Exercises) (id : ExerciseId) (config : ExerciseConfig) :
    Except MaterialFault String :=
  exercises.firstSolution id (config.language.elim Language.all fun language => [language])

end Exercises

/-- Why a configuration cannot be stored. -/
inductive SaveFault where
  | directory (error : FileError)
  | file (error : FileError)
deriving DecidableEq

def SaveFault.message : SaveFault → String
  | directory error => "Failed to create exercise directory: " ++ error.details
  | file error => "Failed to write config file to disk: " ++ error.details

/-- Stores the configuration of an exercise, whose directory is made if need be. -/
def ExerciseConfig.save (config : ExerciseConfig) (tree : FileTree) (root : String)
    (id : ExerciseId) : FileTree × Except SaveFault Unit :=
  match tree.makeDirectories (id.directory root) with
  | (grown, .error error) => (grown, .error (.directory error))
  | (grown, .ok ()) =>
    match grown.write (id.configFile root) config.toJson.pretty.toUTF8 with
    | .error error => (grown, .error (.file error))
    | .ok written => (written, .ok ())

end Autograder
