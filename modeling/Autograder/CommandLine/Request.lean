import Autograder.Submission.Ledger

/-!
# Requests on the command line

The arguments name a command and its options. An option is followed by its value, or joined to it by
an equals sign, and stands at most once. Values that start with a hyphen can only be joined; a
hyphen alone is a value like any other.
-/

namespace Autograder.CommandLine

/-- What the program is asked for. -/
inductive Request where
  /-- To grade a submission against a solution. -/
  | practice (student solution : String) (language : Option Language)
  /-- To grade a submission by a rubric. -/
  | exam (student rubric : String)
  /-- To submit to a stored exercise. -/
  | submit (attempt : Attempt) (student : String)
deriving DecidableEq

/-- A request, and the file that may set further variables. -/
structure Invocation where
  envFile : String := ".env"
  request : Request
deriving DecidableEq

/-- Why the arguments make no request. -/
inductive Refusal where
  /-- Help is asked for. -/
  | help
  /-- The version is asked for. -/
  | version
  | badArguments
deriving DecidableEq

/-- Options and their values, in order. -/
abbrev Options := List (String × String)

inductive Argument where
  /-- Two hyphens alone. -/
  | divider
  /-- Two hyphens and a name, with the value that is joined to it. -/
  | option (name : String) (value : Option String)
  /-- A hyphen and a letter, more of which may follow. -/
  | letters (first : Char)
  | word (text : String)
deriving DecidableEq

def Argument.ofString (text : String) : Argument :=
  match text.toList with
  | ['-', '-'] => .divider
  | '-' :: '-' :: rest =>
    let name := String.ofList (rest.takeWhile (· != '='))
    match rest.dropWhile (· != '=') with
    | [] => .option name none
    | _ :: value => .option name (some (String.ofList value))
  | '-' :: first :: _ => .letters first
  | _ => .word text

/-- Whether an option may have a value. The language must be one that is known by name. -/
def takesValue (name value : String) : Bool :=
  name != "language" || (Language.ofName? value).isSome

/-- Reads the options of a command up to the end, or up to the first that cannot be accepted. An
option may be waiting for its value. -/
def readOptions (known : List String) (options : Options) (waiting : Option String) :
    List String → Except Refusal Options
  | [] => if waiting.isSome then .error .badArguments else .ok options
  | argument :: rest =>
    match waiting, Argument.ofString argument with
    | some name, .word value =>
      if takesValue name value then readOptions known (options ++ [(name, value)]) none rest
      else .error .badArguments
    | some _, _ => .error .badArguments
    | none, .divider => if rest.isEmpty then .ok options else .error .badArguments
    | none, .word _ => .error .badArguments
    | none, .letters first => .error (if first == 'h' then .help else .badArguments)
    | none, .option name joined =>
      if name == "help" && joined.isNone then .error .help
      else if !known.contains name || (options.lookup name).isSome then .error .badArguments
      else match joined with
        | some value =>
          if takesValue name value then readOptions known (options ++ [(name, value)]) none rest
          else .error .badArguments
        | none => readOptions known options (some name) rest

/-- The value of an option that must be there. -/
def required (options : Options) (name : String) : Except Refusal String :=
  match options.lookup name with
  | some value => .ok value
  | none => .error .badArguments

def readPractice (arguments : List String) : Except Refusal Request := do
  let options ← readOptions ["student", "solution", "language"] [] none arguments
  let language := (options.lookup "language").bind Language.ofName?
  return .practice (← required options "student") (← required options "solution") language

def readExam (arguments : List String) : Except Refusal Request := do
  let options ← readOptions ["student", "rubric"] [] none arguments
  return .exam (← required options "student") (← required options "rubric")

def readSubmit (arguments : List String) : Except Refusal Request := do
  let options ← readOptions ["unit", "exercise", "user", "student"] [] none arguments
  let id : ExerciseId := ⟨← required options "unit", ← required options "exercise"⟩
  return .submit ⟨← required options "user", id⟩ (← required options "student")

def command? : String → Option (List String → Except Refusal Request)
  | "practice" => some readPractice
  | "exam" => some readExam
  | "submit" => some readSubmit
  | _ => none

/-- Reads the arguments of the command for help: at most the name of a command. -/
def readHelp : List String → Refusal
  | [] => .help
  | [name] => if (command? name).isSome || name == "help" then .help else .badArguments
  | _ => .badArguments

/-- Reads the arguments from the command on. -/
def readCommand (envFile : String) : List String → Except Refusal Invocation
  | [] => .error .badArguments
  | name :: arguments =>
    match command? name with
    | some read => (read arguments).map fun request => { envFile, request }
    | none => .error (if name == "help" then readHelp arguments else .badArguments)

/-- Reads the arguments that stand before the command. The option may be waiting for its value. -/
def readGlobal (envFile : Option String) (waiting : Bool) :
    List String → Except Refusal Invocation
  | [] => .error .badArguments
  | argument :: rest =>
    match waiting, Argument.ofString argument with
    | true, .word value => readGlobal (some value) false rest
    | true, _ => .error .badArguments
    | false, .word _ => readCommand (envFile.getD ".env") (argument :: rest)
    | false, .divider => .error .badArguments
    | false, .letters first =>
      .error (if first == 'h' then .help else if first == 'V' then .version else .badArguments)
    | false, .option name joined =>
      if name == "help" && joined.isNone then .error .help
      else if name == "version" && joined.isNone then .error .version
      else if name != "env" || envFile.isSome then .error .badArguments
      else match joined with
        | some value => readGlobal (some value) false rest
        | none => readGlobal envFile true rest

/-- What the arguments ask for. -/
def read (arguments : List String) : Except Refusal Invocation :=
  readGlobal none false arguments

end Autograder.CommandLine
