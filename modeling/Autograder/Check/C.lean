import Autograder.Check.Finding
import Autograder.Source.Mask
import Autograder.Text.Blank
import Autograder.Text.Split
import Autograder.Text.Word

/-!
# The check of C programs

The check reads the masked text line by line. A line is complete if it declares a variable, ends in
a semicolon or brace, or starts a control structure. Then every identifier outside preprocessor
lines must be declared somewhere in the text or be reserved.
-/

namespace Autograder.Check.C

open Autograder.Text Autograder.Source

/-- The types a declaration starts with. -/
def typeNames : List String :=
  ["int", "float", "char", "double"]

/-- The words that start a line which needs no semicolon. -/
def controlWords : List String :=
  ["if", "else", "for", "while", "do"]

/-- The identifiers that need no declaration. -/
def reserved : List String :=
  ["if", "else", "for", "while", "do", "return", "int", "float", "char", "double", "printf",
   "scanf", "main", "void", "break", "continue", "switch", "case", "default", "const", "long",
   "short", "unsigned", "signed", "sizeof", "include", "stdio", "h", "puts", "putchar",
   "getchar"]

/-- The word at the start of a line; empty if it starts with something else. -/
def firstWord (line : List Char) : List Char :=
  line.takeWhile isWord

/-- The type name, the declared name and what follows it, if the line starts like a declaration. -/
def declarationHead? (line : List Char) : Option (List Char × List Char × List Char) := do
  let type := firstWord line
  let rest := line.dropWhile isWord
  if (typeNames.map String.toList).contains type && (rest.head?.any isBlank) then
    let (name, rest) ← takeIdent? (trimStart rest)
    return (type, name, trimStart rest)
  else none

/-- Whether the text is a semicolon, or an initial value without semicolons and then one. -/
def endsDeclaration : List Char → Bool
  | [';'] => true
  | '=' :: rest => rest.dropWhile (· != ';') == [';'] && rest.head? != some ';'
  | _ => false

/-- The variable that a line declares. -/
def declaredName? (line : List Char) : Option (List Char) := do
  let (_, name, rest) ← declarationHead? line
  if endsDeclaration rest then some name else none

/-- What a line of the masked text is to the check. -/
inductive LineForm where
  /-- Blank, or for the preprocessor. -/
  | skipped
  | declaration (name : List Char)
  | complete
  | incomplete
deriving DecidableEq

/-- The form of a line without surrounding blanks. -/
def classify (line : List Char) : LineForm :=
  if line.isEmpty || line.head? == some '#' then .skipped
  else match declaredName? line with
    | some name => .declaration name
    | none =>
      if line.getLast?.any [';', '{', '}'].contains
          || (controlWords.map String.toList).contains (firstWord line) || line == [')'] then
        .complete
      else .incomplete

def lineForms (masked : List Char) : List LineForm :=
  (lines masked).map fun line => classify (trim line)

def declaredNames (masked : List Char) : List (List Char) :=
  (lineForms masked).filterMap fun
    | .declaration name => some name
    | _ => none

/-- The numbers of the incomplete lines. -/
def incompleteLines (masked : List Char) : List Nat :=
  ((lineForms masked).zipIdx 1).filterMap fun (form, n) =>
    if form = .incomplete then some n else none

/-- Where the deletion of preprocessor lines stands. -/
inductive Place where
  /-- At the start of a line. -/
  | lineStart
  /-- In a line that stays. -/
  | kept
  /-- In the blanks before a `#`. -/
  | leading
  /-- Behind a `#`. -/
  | directive
deriving DecidableEq

/-- Deletes preprocessor lines from a text that starts at the given place. The blanks before the `#`
go with it, also those of blank lines above; the newline behind the line stays. -/
def dropDirectivesFrom : Place → List Char → List Char
  | _, [] => []
  | .lineStart, c :: rest =>
    if (trimStart (c :: rest)).head? == some '#' then
      dropDirectivesFrom (if c == '#' then .directive else .leading) rest
    else c :: dropDirectivesFrom (if c == '\n' then .lineStart else .kept) rest
  | .kept, c :: rest => c :: dropDirectivesFrom (if c == '\n' then .lineStart else .kept) rest
  | .leading, c :: rest => dropDirectivesFrom (if c == '#' then .directive else .leading) rest
  | .directive, c :: rest =>
    if c == '\n' then c :: dropDirectivesFrom .lineStart rest
    else dropDirectivesFrom .directive rest

/-- The text without its preprocessor lines. -/
def dropDirectives (masked : List Char) : List Char :=
  dropDirectivesFrom .lineStart masked

/-- The identifiers outside preprocessor lines, in order and with repetitions. -/
def identifiers (masked : List Char) : List (List Char) :=
  (words (dropDirectives masked)).filter fun word => word.head?.any isIdentStart

/-- The identifiers that are neither declared nor reserved, each once. -/
def undeclaredNames (masked : List Char) : List (List Char) :=
  let known := declaredNames masked ++ reserved.map String.toList
  ((identifiers masked).filter fun name => !known.contains name).eraseDups

def check (code : List Char) : List Finding :=
  let masked := mask code
  (incompleteLines masked).map (⟨·, .missingSemicolon⟩)
    ++ (undeclaredNames masked).map (⟨0, .undeclared ·⟩)

def declarationCount (code : List Char) : Nat :=
  (declaredNames (mask code)).length

end Autograder.Check.C
