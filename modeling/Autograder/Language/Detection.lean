import Autograder.Language.Basic
import Autograder.Text.Blank
import Autograder.Text.Word

/-!
# Language detection

A text is recognised by signatures: words and shapes that belong to one language. Signatures of
PSeInt are asked first, because words such as `Definir` are more telling than `int`. A text without
any signature is C unless `Definir` stands inside one of its words.
-/

namespace Autograder

open Autograder.Text

/-- What a signature looks for. -/
inductive Shape where
  /-- One of the words, complete. -/
  | anyWord (words : List String)
  /-- The word, complete. -/
  | word (word : String)
  /-- The characters, anywhere. -/
  | literal (text : String)
  /-- The name, even at the end of a longer word, and an opening parenthesis. -/
  | call (name : String)
  /-- The keyword, even at the end of a longer word, then a blank and later a semicolon. -/
  | statement (keyword : String)
deriving DecidableEq

namespace Shape

def pattern : Shape → String
  | anyWord words => "\\b(" ++ "|".intercalate words ++ ")\\b"
  | word w => "\\b" ++ w ++ "\\b"
  | literal text => text
  | call name => name ++ "\\s*\\("
  | statement keyword => keyword ++ "\\s+.*;"

/-- The text after `first`, if the text starts with it. -/
def after? (first : String) (s : List Char) : Option (List Char) :=
  if first.toList.isPrefixOf s then some (s.drop first.toList.length) else none

/-- Whether a call of `name` stands at the start of the text. -/
def startsCall (name : String) (s : List Char) : Bool :=
  match after? name s with
  | some rest => (trimStart rest).head? == some '('
  | none => false

/-- Whether a statement with `keyword` stands at the start of the text. Newlines may follow the
keyword, but none may stand between the first visible character after it and the semicolon. -/
def startsStatement (keyword : String) (s : List Char) : Bool :=
  match after? keyword s with
  | some (c :: rest) => isBlank c && ((trimStart rest).takeWhile (· != '\n')).contains ';'
  | _ => false

/-- Whether the shape stands somewhere in the text. -/
def occursIn (s : List Char) : Shape → Bool
  | anyWord ws => ws.any fun w => occursAsWord w.toList s
  | word w => occursAsWord w.toList s
  | literal text => occurs text.toList s
  | call name => anySuffix (startsCall name) s
  | statement keyword => anySuffix (startsStatement keyword) s

end Shape

/-- A shape and the name it is reported by. -/
structure Signature where
  name : String
  shape : Shape
deriving DecidableEq

namespace Language

/-- The signatures of a language, in the order in which they are asked. -/
def signatures : Language → List Signature
  | c =>
    [⟨"tipo primitivo", .anyWord ["int", "float", "char", "double"]⟩,
     ⟨"include", .literal "#include"⟩,
     ⟨"printf", .call "printf"⟩,
     ⟨"scanf", .call "scanf"⟩,
     ⟨"main", .call "main"⟩,
     ⟨"return", .statement "return"⟩]
  | pseint =>
    [⟨"Definir", .word "Definir"⟩,
     ⟨"Como", .word "Como"⟩,
     ⟨"asignacion", .literal "<-"⟩,
     ⟨"Proceso", .word "Proceso"⟩,
     ⟨"FinProceso", .word "FinProceso"⟩,
     ⟨"Escribir", .word "Escribir"⟩,
     ⟨"Leer", .word "Leer"⟩]

/-- The first signature of the language that the text shows. -/
def firstSignature? (language : Language) (s : List Char) : Option Signature :=
  language.signatures.find? fun signature => signature.shape.occursIn s

/-- The language of a text that shows no signature. -/
def fallback (s : List Char) : Language :=
  if occurs "Definir".toList s then pseint else c

/-- The language of a text and the name of the signature that told it. -/
def recognize (s : List Char) : Language × String :=
  match pseint.firstSignature? s with
  | some signature => (pseint, signature.name)
  | none =>
    match c.firstSignature? s with
    | some signature => (c, signature.name)
    | none => (fallback s, "heuristica")

def detect (s : List Char) : Language :=
  (recognize s).1

end Language

end Autograder
