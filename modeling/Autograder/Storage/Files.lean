import Autograder.Storage.FileError

/-!
# Stored files

What can be read under each path. Directories are told from the rest by the error that reading them
gives.
-/

namespace Autograder.Storage

/-- The contents under each path. -/
structure Files where
  read : String → Except FileError ByteArray

namespace Files

/-- The contents under some paths; under all others there is nothing. -/
def ofList (known : List (String × Except FileError ByteArray)) : Files :=
  ⟨fun path => (known.lookup path).getD (.error .missing)⟩

def isDirectory (files : Files) (path : String) : Bool :=
  match files.read path with
  | .error .isDirectory => true
  | _ => false

def decode (bytes : ByteArray) : Except FileError String :=
  match String.fromUTF8? bytes with
  | some text => .ok text
  | none => .error .notText

def readText (files : Files) (path : String) : Except FileError String :=
  files.read path >>= decode

end Files

end Autograder.Storage
