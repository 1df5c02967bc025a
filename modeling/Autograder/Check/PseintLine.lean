import Autograder.Check.Construct
import Autograder.Text.Blank
import Autograder.Text.Lowercase
import Autograder.Text.Split
import Autograder.Text.Word

/-!
# Lines of pseudocode

A line of pseudocode is told by its first words, in any letter case: it closes or opens a construct,
separates branches, defines variables, assigns to one, or is another statement.
-/

namespace Autograder.Check.Pseint

open Autograder.Text

/-- The lowercase ASCII letter that a character stands for in a keyword. Besides the capitals, the
long s and the Kelvin sign count as letters. -/
def keyLetter (c : Char) : Char :=
  if c == 'ſ' then 's' else if c == '\u212A' then 'k' else c.toLower

def keyText (s : List Char) : List Char :=
  s.map keyLetter

/-- The first word of a line, as a keyword. -/
def keyword (line : List Char) : String :=
  String.ofList (keyText (line.takeWhile isWord))

/-- The text after the characters of `key`, if it starts with them. -/
def afterKey? (key : String) (s : List Char) : Option (List Char) :=
  let n := key.toList.length
  if keyText (s.take n) == key.toList then some (s.drop n) else none

/-- The text after at least one blank and all that follow it. -/
def afterBlanks? : List Char → Option (List Char)
  | [] => none
  | c :: rest => if isBlank c then some (trimStart rest) else none

/-- An identifier, which may also start with a letter that stands for an ASCII one. -/
def takeName? : List Char → Option (List Char × List Char)
  | [] => none
  | c :: rest =>
    if isIdentStart (keyLetter c) then some (c :: rest.takeWhile isWord, rest.dropWhile isWord)
    else none

/-- The text after the arrow of an assignment. -/
def afterArrow? : List Char → Option (List Char)
  | '<' :: '-' :: rest => some rest
  | _ => none

/-- The types of the pseudocode. -/
def typeNames : List String :=
  ["entero", "real", "numero", "numerico", "caracter", "texto", "cadena", "logico"]

/-- The names after a first one, each after a comma, and what follows the last. A comma without
a name behind it refuses the list. At most `fuel` names are read. -/
def moreNames? : Nat → List Char → Option (List (List Char) × List Char)
  | 0, s => some ([], s)
  | fuel + 1, s =>
    match trimStart s with
    | ',' :: rest => do
      let (name, rest) ← takeName? (trimStart rest)
      let (names, rest) ← moreNames? fuel rest
      return (name :: names, rest)
    | _ => some ([], s)

/-- Whether the text is `Como`, a type and at most a semicolon, after blanks. -/
def isTypeClause (s : List Char) : Bool :=
  match afterBlanks? s with
  | none => false
  | some s =>
    match afterKey? "como" s with
    | none => false
    | some s =>
      match afterBlanks? s with
      | none => false
      | some s =>
        typeNames.contains (keyword s)
          && [[], [';']].contains (trimStart (s.dropWhile isWord))

/-- The names that a `Definir` line defines, if it has the shape of a definition. -/
def definedNames? (line : List Char) : Option (List (List Char)) := do
  let s ← afterKey? "definir" line
  let s ← afterBlanks? s
  let (name, s) ← takeName? s
  let (names, s) ← moreNames? s.length s
  if isTypeClause s then some (name :: names) else none

/-- The condition of a `Si` line without its final `Entonces`; `rest` is what follows `Si`. -/
def conditionOf (rest : List Char) : List Char :=
  let condition := trim rest
  let lastWord := (condition.reverse.takeWhile isWord).reverse
  if keyText lastWord == "entonces".toList then
    trimEnd (condition.take (condition.length - lastWord.length))
  else condition

/-- Whether `Hasta` with a blank on either side, and something behind, starts the text. -/
def startsUpperBound : List Char → Bool
  | [] => false
  | c :: rest =>
    isBlank c && match afterKey? "hasta" rest with
      | some (d :: _ :: _) => isBlank d
      | _ => false

/-- Whether a `Para` line assigns a start value to a name and gives an upper bound. -/
def isForHeader (line : List Char) : Bool :=
  let start? : Option (List Char) := do
    let s ← afterKey? "para" line
    let s ← afterBlanks? s
    let (_, s) ← takeName? s
    afterArrow? (trimStart s)
  match start? with
  | some (_ :: rest) => anySuffix startsUpperBound rest
  | _ => false

def assignedName? (line : List Char) : Option (List Char) := do
  let (name, s) ← takeName? line
  let s ← afterArrow? (trimStart s)
  if s.isEmpty then none else some name

/-- Whether the line is `Hasta Que`, however it goes on. -/
def isUntil (line : List Char) : Bool :=
  match (afterKey? "hasta" line).bind afterBlanks? with
  | some s => keyword s == "que"
  | none => false

def isSeparator (line : List Char) : Bool :=
  keyword line == "sino" ||
    match (afterKey? "de" line).bind fun s => afterKey? "otro" (trimStart s) with
    | some s => keyword (trimStart s) == "modo"
    | none => false

/-- The constructs that a word of their own closes. -/
def closerOf? (word : String) : Option Construct :=
  if word == "finsi" then some .si
  else if word == "finpara" then some .para
  else if word == "finmientras" then some .mientras
  else if word == "finsegun" then some .segun
  else if word == "finproceso" then some .proceso
  else if word == "finalgoritmo" then some .algoritmo
  else none

/-- The construct that a header line with the given first word opens. -/
def openerOf? (word : String) : Option Construct :=
  if word == "si" then some .si
  else if word == "para" then some .para
  else if word == "mientras" then some .mientras
  else if word == "repetir" then some .repetir
  else if word == "segun" then some .segun
  else if word == "proceso" then some .proceso
  else if word == "algoritmo" then some .algoritmo
  else none

/-- Whether a header line has what its construct needs: `Si` a condition, `Para` its bounds. -/
def isWellFormedHeader (construct : Construct) (line : List Char) : Bool :=
  match construct with
  | .si => !(conditionOf (line.dropWhile isWord)).isEmpty
  | .para => isForHeader line
  | _ => true

/-- What a line of pseudocode is to the check. -/
inductive LineForm where
  /-- Closes a construct. There is none if the word is a closer only by letters that stand for
  ASCII ones; such a line does nothing. -/
  | closer (construct : Option Construct)
  | separator
  /-- Defines the names, in lowercase; there are none if the line is not well formed. -/
  | definition (names : Option (List (List Char)))
  /-- Opens a construct; says whether the header has what the construct needs. -/
  | header (construct : Construct) (wellFormed : Bool)
  | assignment (name : List Char)
  | statement (terminated : Bool)
deriving DecidableEq

/-- The form of a line without comment and surrounding blanks. -/
def classify (line : List Char) : LineForm :=
  let word := line.takeWhile isWord
  let key := keyword line
  if (closerOf? key).isSome then .closer (closerOf? (String.ofList (lowercase word)))
  else if isUntil line then .closer (some .repetir)
  else if isSeparator line then .separator
  else if key == "definir" then .definition ((definedNames? line).map (·.map lowercase))
  else match openerOf? key with
    | some construct => .header construct (isWellFormedHeader construct line)
    | none =>
      match assignedName? line with
      | some name => .assignment name
      | none => .statement (line.getLast? == some ';')

end Autograder.Check.Pseint
