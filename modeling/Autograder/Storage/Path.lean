import Autograder.Text.Split

/-!
# Paths

A path is a text of names set apart by slashes. Paths are joined without being simplified: `.`, `..`
and repeated slashes stay as they are written.
-/

namespace Autograder.Storage.Path

open Autograder.Text

/-- Whether the path starts at the top of the file system. -/
def isAbsolute (path : String) : Bool :=
  path.toList.head? == some '/'

/-- The path `right` as seen from `left`. An absolute path is seen as itself from everywhere. -/
def join (left right : String) : String :=
  if isAbsolute right then right
  else match left.toList.getLast? with
    | none => right
    | some '/' => left ++ right
    | some _ => left ++ "/" ++ right

/-- The names in a path as written. A slash at either end and repeated slashes give empty names. -/
def segments (path : String) : List String :=
  (splitAt (· == '/') path.toList).map String.ofList

/-- The names in a path, without the ones that stay in place. -/
def names (path : String) : List String :=
  (segments path).filter fun name => name != "" && name != "."

/-- The directory that the last name of a path stands in; nothing if the path has one name at
most. -/
def parent? (path : String) : Option String :=
  match (names path).dropLast with
  | [] => none
  | parents => some ("/".intercalate parents)

end Autograder.Storage.Path
