/-!
# File errors

Why a path cannot be read or written, and the wordings for it.
-/

namespace Autograder.Storage

/-- What can go wrong with a path. -/
inductive FileError where
  /-- Nothing is there. -/
  | missing
  /-- Something is there already. -/
  | occupied
  /-- A name that more names follow does not belong to a directory. -/
  | notDirectory
  /-- A directory stands where a file should. -/
  | isDirectory
  /-- The path may not be read or written by this user. -/
  | permissionDenied
  /-- A name, or the whole path, is too long. -/
  | nameTooLong
  /-- The path holds a NUL character. -/
  | nulInPath
  /-- The file does not hold UTF-8 text. -/
  | notText
deriving DecidableEq, Repr

namespace FileError

/-- The kind of an error, in words. -/
def kind : FileError → String
  | missing => "entity not found"
  | occupied => "entity already exists"
  | notDirectory => "not a directory"
  | isDirectory => "is a directory"
  | permissionDenied => "permission denied"
  | nameTooLong => "invalid filename"
  | nulInPath => "invalid input parameter"
  | notText => "invalid data"

/-- The kind of an error, as a name. -/
def kindName : FileError → String
  | missing => "NotFound"
  | occupied => "AlreadyExists"
  | notDirectory => "NotADirectory"
  | isDirectory => "IsADirectory"
  | permissionDenied => "PermissionDenied"
  | nameTooLong => "InvalidFilename"
  | nulInPath => "InvalidInput"
  | notText => "InvalidData"

def description : FileError → String
  | missing => "No such file or directory"
  | occupied => "File exists"
  | notDirectory => "Not a directory"
  | isDirectory => "Is a directory"
  | permissionDenied => "Permission denied"
  | nameTooLong => "File name too long"
  | nulInPath => "file name contained an unexpected NUL byte"
  | notText => "stream did not contain valid UTF-8"

/-- The number of an error that the operating system reports. -/
def code? : FileError → Option Nat
  | missing => some 2
  | occupied => some 17
  | notDirectory => some 20
  | isDirectory => some 21
  | permissionDenied => some 13
  | nameTooLong => some 36
  | nulInPath => none
  | notText => none

/-- An error in one sentence. -/
def message (error : FileError) : String :=
  match error.code? with
  | some code => error.description ++ " (os error " ++ toString code ++ ")"
  | none => error.description

/-- An error with all its particulars. -/
def details (error : FileError) : String :=
  let head := match error.code? with
    | some code => "Os \x7b code: " ++ toString code ++ ", kind: "
    | none => "Error \x7b kind: "
  head ++ error.kindName ++ ", message: \"" ++ error.description ++ "\" \x7d"

end FileError

end Autograder.Storage
