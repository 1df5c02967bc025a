import Autograder.Settings.Basic
import Autograder.Text.Blank
import Autograder.Text.Letter

/-!
# Environment files

A file may set further variables, one to a statement: a name, an equals sign and a value, which may
be quoted, go on over several lines inside quotes, and refer to variables set before. A `#` after a
blank starts a comment. Statements are taken up to the first that cannot be read, and a variable
that is set already keeps its value.
-/

namespace Autograder.EnvFile

open Autograder.Text

/-- Where a statement stands at the end of some of its characters. -/
inductive Quoting where
  | plain
  /-- Right after a blank. -/
  | spaced
  | escaped
  | single
  | singleEscaped
  | double
  | doubleEscaped
deriving DecidableEq

/-- What opens after a character outside quotes. -/
def Quoting.opened (c : Char) : Quoting :=
  if c == '\\' then .escaped
  else if c == '"' then .double
  else if c == '\'' then .single
  else .plain

/-- The state after a character. -/
def Quoting.next (c : Char) : Quoting → Quoting
  | plain => if isBlank c && c != '\n' && c != '\r' then .spaced else .opened c
  | spaced => .opened c
  | escaped => .plain
  | double => if c == '\\' then .doubleEscaped else if c == '"' then .plain else .double
  | doubleEscaped => .double
  | single => if c == '\\' then .singleEscaped else if c == '\'' then .plain else .single
  | singleEscaped => .single

/-- Reads a line: the state at its end, or what stands before a comment. -/
def scan (state : Quoting) : List Char → Quoting ⊕ List Char
  | [] => .inl state
  | c :: rest =>
    if state = .spaced && c == '#' then .inr []
    else match scan (state.next c) rest with
      | .inl last => .inl last
      | .inr kept => .inr (c :: kept)

/-- The lines of a text with their newlines. -/
def physicalLines : List Char → List (List Char)
  | [] => []
  | '\n' :: rest => ['\n'] :: physicalLines rest
  | c :: rest => consFirst c (physicalLines rest)

/-- A text without its line end. -/
def dropLineEnd (s : List Char) : List Char :=
  match s.reverse with
  | '\n' :: '\r' :: rest => rest.reverse
  | '\n' :: rest => rest.reverse
  | _ => s

/-- The statements of a file; `pending` has been read of the first. The file ends early where a
statement is not complete. -/
def statementsFrom (pending : List Char) (state : Quoting) :
    List (List Char) → List (Option (List Char))
  | [] => if state = .plain then [] else [none]
  | line :: rest =>
    let text := pending ++ line
    if (trimStart text).head? == some '#' then some [] :: statementsFrom [] .plain rest
    else match scan state line with
      | .inr kept => some (pending ++ kept) :: statementsFrom [] .plain rest
      | .inl .plain => some (dropLineEnd text) :: statementsFrom [] .plain rest
      | .inl open_ => statementsFrom text open_ rest

/-- A reference that is being read. -/
inductive Reference where
  | none
  /-- After a dollar sign. -/
  | bare (name : List Char)
  /-- After a dollar sign and a brace. -/
  | braced (name : List Char)
deriving DecidableEq

/-- The state of reading a value. -/
structure ValueState where
  /-- What was read, in reverse. -/
  output : List Char := []
  escaped : Bool := false
  single : Bool := false
  double : Bool := false
  /-- Whether a blank ended the value. -/
  ended : Bool := false
  reference : Reference := .none

/-- What a reference stands for: a variable that is set, or else one of the file. -/
def resolve (environment assigned : Environment) (name : List Char) : List Char :=
  ((environment.lookup (String.ofList name)).or
    (assigned.lookup (String.ofList name))).getD "" |>.toList

/-- Reads one character of a value after the ones before. -/
def ValueState.next (lookup : List Char → List Char) (state : ValueState) (c : Char) :
    Option ValueState :=
  let push (c : Char) (state : ValueState) := { state with output := c :: state.output }
  if state.escaped then
    if ['\\', '\'', '"', '$', ' '].contains c then some (push c { state with escaped := false })
    else if c == 'n' then some (push '\n' { state with escaped := false })
    else none
  else if state.single then
    if c == '\'' then some { state with single := false } else some (push c state)
  else match state.reference with
    | .bare name =>
      if isLetterOrNumeral c then some { state with reference := .bare (name ++ [c]) }
      else if c == '{' && name.isEmpty then some { state with reference := .braced [] }
      else
        let output := (lookup name).reverse ++ state.output
        if c == '$' then some { state with output, reference := .bare [] }
        else some (push c { state with output, reference := .none })
    | .braced name =>
      if c == '}' then
        some { state with output := (lookup name).reverse ++ state.output, reference := .none }
      else some { state with reference := .braced (name ++ [c]) }
    | .none =>
      if c == '$' then some { state with reference := .bare [] }
      else if state.double then
        if c == '"' then some { state with double := false }
        else if c == '\\' then some { state with escaped := true }
        else some (push c state)
      else if c == '\'' then some { state with single := true }
      else if c == '"' then some { state with double := true }
      else if c == '\\' then some { state with escaped := true }
      else if c == ' ' || c == '\t' then some { state with ended := true }
      else some (push c state)

/-- Reads a value. After its end only blanks and a comment may follow. -/
def readValue (lookup : List Char → List Char) (state : ValueState) : List Char → Option String
  | [] =>
    match state.single || state.double, state.reference with
    | true, _ => none
    | false, .braced _ => none
    | false, .bare name => some (String.ofList (state.output.reverse ++ lookup name))
    | false, .none => some (String.ofList state.output.reverse)
  | c :: rest =>
    if state.ended then
      if c == ' ' || c == '\t' then readValue lookup state rest
      else if c == '#' then readValue lookup state []
      else none
    else match state.next lookup c with
      | some next => readValue lookup next rest
      | none => none

/-- A name at the start of a text, and what follows it. -/
def readName (s : List Char) : Option (List Char × List Char) :=
  let isNameChar (c : Char) : Bool := c.isAlphanum || c == '_' || c == '.'
  match s with
  | c :: _ =>
    if c.isAlpha || c == '_' then some (s.takeWhile isNameChar, s.dropWhile isNameChar) else none
  | [] => none

/-- The name that a statement assigns to, and the text of the value. The word `export` may stand
before the name. -/
def readTarget (s : List Char) : Option (List Char × List Char) := do
  let (name, rest) ← readName s
  match trimStart rest with
  | '=' :: value => some (name, value)
  | rest =>
    if name == "export".toList then
      let (name, rest) ← readName rest
      match trimStart rest with
      | '=' :: value => some (name, value)
      | _ => none
    else none

/-- Reads a statement: nothing if it assigns nothing, or else the name and the value. -/
def readStatement (environment assigned : Environment) (s : List Char) :
    Option (Option (String × String)) :=
  match trim s with
  | [] => some none
  | '#' :: _ => some none
  | statement => do
    let (name, value) ← readTarget statement
    let value ← match trimStart value with
      | [] => some ""
      | '#' :: _ => some ""
      | value => readValue (resolve environment assigned) {} value
    some (some (String.ofList name, value))

/-- The environment after the statements. -/
def assign (environment assigned : Environment) : List (Option (List Char)) → Environment
  | [] => environment
  | none :: _ => environment
  | some s :: rest =>
    match readStatement environment assigned s with
    | none => environment
    | some none => assign environment assigned rest
    | some (some (name, value)) =>
      let grown :=
        if (environment.lookup name).isSome then environment else environment ++ [(name, value)]
      assign grown ((name, value) :: assigned) rest

/-- The environment after a file with this text. A byte order mark at its start does not count. -/
def load (environment : Environment) (text : String) : Environment :=
  let s := match text.toList with
    | '\ufeff' :: rest => rest
    | s => s
  assign environment [] (statementsFrom [] .plain (physicalLines s))

end Autograder.EnvFile
