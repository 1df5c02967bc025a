import Autograder.Storage.Files
import Autograder.Storage.Path

/-!
# File trees

A file tree holds files and directories at locations, which are lists of names from the top down. A
path is followed name by name through directories that exist; `.` stays, `..` goes up, and at the
top it stays as well.
-/

namespace Autograder.Storage

/-- What stands at a location. -/
inductive Entry where
  | directory
  | file (content : ByteArray)

/-- The names on the way to an entry. -/
abbrev Location := List String

/-- Files and directories at their locations. The top itself is always a directory. -/
structure FileTree where
  entries : List (Location × Entry) := []

namespace FileTree

def entry? (tree : FileTree) (location : Location) : Option Entry :=
  if location.isEmpty then some .directory else tree.entries.lookup location

/-- The tree with an entry put at a location, in place of the one that was there. -/
def put (tree : FileTree) (location : Location) (entry : Entry) : FileTree :=
  ⟨(location, entry) :: tree.entries.filter fun (other, _) => other != location⟩

/-- The tree without an entry and all that stands below it. -/
def cut (tree : FileTree) (location : Location) : FileTree :=
  ⟨tree.entries.filter fun (other, _) => !location.isPrefixOf other⟩

/-- The longest name, in bytes. -/
def nameLimit : Nat := 255

/-- The longest path, in bytes. -/
def pathLimit : Nat := 4095

/-- Looks at a path as a whole: whether it can be followed at all. -/
def checkPath (path : String) : Except FileError Unit :=
  if path.toList.contains '\x00' then .error .nulInPath
  else if path.isEmpty then .error .missing
  else if pathLimit < path.utf8ByteSize then .error .nameTooLong
  else .ok ()

/-- One step from a location, which must be a directory. -/
def follow (tree : FileTree) (location : Location) (name : String) : Except FileError Location :=
  match tree.entry? location with
  | none => .error .missing
  | some (.file _) => .error .notDirectory
  | some .directory =>
    if name == "" || name == "." then .ok location
    else if name == ".." then .ok location.dropLast
    else if nameLimit < name.utf8ByteSize then .error .nameTooLong
    else if (tree.entry? (location ++ [name])).isSome then .ok (location ++ [name])
    else .error .missing

/-- The location that names lead to from the top. -/
def walk (tree : FileTree) (names : List String) : Except FileError Location :=
  names.foldlM tree.follow []

/-- The location that a path leads to. -/
def locate (tree : FileTree) (path : String) : Except FileError Location := do
  checkPath path
  tree.walk (Path.segments path)

/-- The location at which a last name may be put. -/
def target (tree : FileTree) (directory : Location) (name : String) :
    Except FileError Location :=
  match tree.entry? directory with
  | some .directory =>
    if nameLimit < name.utf8ByteSize then .error .nameTooLong else .ok (directory ++ [name])
  | some (.file _) => .error .notDirectory
  | none => .error .missing

def read (tree : FileTree) (path : String) : Except FileError ByteArray := do
  match tree.entry? (← tree.locate path) with
  | some (.file content) => .ok content
  | some .directory => .error .isDirectory
  | none => .error .missing

def files (tree : FileTree) : Files :=
  ⟨tree.read⟩

/-- Makes one directory, in a directory that exists. -/
def makeDirectory (tree : FileTree) (names : List String) : Except FileError FileTree := do
  match names.getLast? with
  | none => .error .occupied
  | some last =>
    let directory ← tree.walk names.dropLast
    if last == ".." then
      let _ ← tree.follow directory last
      .error .occupied
    else
      let location ← tree.target directory last
      if (tree.entry? location).isSome then .error .occupied
      else .ok (tree.put location .directory)

/-- Makes the directories on the way to and including the last of `ahead`, which follow the names
`passed`. What is there already is left as it is, but the last one must be a directory. What was
made before an error stays. -/
def makeDirectoriesFrom (tree : FileTree) (passed : List String) :
    List String → FileTree × Except FileError Unit
  | [] => (tree, .ok ())
  | name :: ahead =>
    let names := passed ++ [name]
    match tree.makeDirectory names with
    | .ok grown => makeDirectoriesFrom grown names ahead
    | .error .occupied =>
      if !ahead.isEmpty then makeDirectoriesFrom tree names ahead
      else match tree.walk (names ++ ["."]) with
        | .ok _ => (tree, .ok ())
        | .error _ => (tree, .error .occupied)
    | .error error => (tree, .error error)

/-- Makes the directory that a path names and all that lead to it. -/
def makeDirectories (tree : FileTree) (path : String) : FileTree × Except FileError Unit :=
  match checkPath path with
  | .error error => (tree, .error error)
  | .ok () => makeDirectoriesFrom tree [] (Path.names path)

/-- Puts a file under a path, in a directory that exists. A file that is there is replaced. -/
def write (tree : FileTree) (path : String) (content : ByteArray) :
    Except FileError FileTree := do
  checkPath path
  let names := Path.segments path
  let last := names.getLast?.getD ""
  let directory ← tree.walk names.dropLast
  if last == "" || last == "." || last == ".." then .error .isDirectory
  else
    let location ← tree.target directory last
    match tree.entry? location with
    | some .directory => .error .isDirectory
    | _ => .ok (tree.put location (.file content))

/-- Puts a file under a path, and makes the directories that lead to it. Directories that were made
stay even if the file cannot be put. -/
def place (tree : FileTree) (path : String) (content : ByteArray) :
    FileTree × Except FileError Unit :=
  let tree := match Path.parent? path with
    | some parent => (tree.makeDirectories parent).1
    | none => tree
  match tree.write path content with
  | .ok grown => (grown, .ok ())
  | .error error => (tree, .error error)

/-- The tree that holds some files under their paths. -/
def ofFiles (files : List (String × ByteArray)) : FileTree :=
  files.foldl (fun tree (path, content) => (tree.place path content).1) {}

/-- Removes what a path leads to, with everything below it. -/
def remove (tree : FileTree) (path : String) : FileTree × Except FileError Unit :=
  match tree.locate path with
  | .error error => (tree, .error error)
  | .ok [] => (tree, .error .occupied)
  | .ok location => (tree.cut location, .ok ())

end FileTree

end Autograder.Storage
