import Autograder.Text.Ranges
import Autograder.Text.Split
import Autograder.Text.WordTable

/-!
# Words

Word characters are letters, marks, digits, connectors and join controls in the sense of Unicode.
A word of a text is a maximal run of them.
-/

namespace Autograder.Text

/-- Letters, marks, decimal digits, connectors and join controls. -/
def isWord (c : Char) : Bool :=
  if c.toNat < 128 then c.isAlphanum || c == '_' else inRanges wordTable c.toNat

/-- The characters an identifier starts with: ASCII letters and the underscore. -/
def isIdentStart (c : Char) : Bool :=
  c.isAlpha || c == '_'

/-- The maximal runs of word characters, in order. -/
def words (s : List Char) : List (List Char) :=
  (splitAt (fun c => !isWord c) s).filter (!·.isEmpty)

/-- Whether `word` stands in the text as a complete word. -/
def occursAsWord (word s : List Char) : Bool :=
  (words s).contains word

/-- An identifier at the start of the text, and what follows it. -/
def takeIdent? : List Char → Option (List Char × List Char)
  | [] => none
  | c :: rest =>
    if isIdentStart c then some (c :: rest.takeWhile isWord, rest.dropWhile isWord) else none

end Autograder.Text
