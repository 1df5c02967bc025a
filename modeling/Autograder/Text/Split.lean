/-!
# Splitting text

A text splits at separator characters into pieces that hold none, and into lines at its newlines.
A carriage return right before a newline belongs to the line end.
-/

namespace Autograder.Text

/-- Puts a character in front of the first piece. -/
def consFirst (c : Char) : List (List Char) → List (List Char)
  | [] => [[c]]
  | first :: others => (c :: first) :: others

/-- The pieces between separators, empty ones included; a text has one piece more than
separators. -/
def splitAt (isSeparator : Char → Bool) : List Char → List (List Char)
  | [] => [[]]
  | c :: rest =>
    if isSeparator c then [] :: splitAt isSeparator rest
    else consFirst c (splitAt isSeparator rest)

def segments (s : List Char) : List (List Char) :=
  splitAt (· == '\n') s

/-- The lines of a text. The last one may lack its newline, and then keeps a final carriage
return; nothing follows a final newline. -/
def lines : List Char → List (List Char)
  | [] => []
  | '\n' :: rest => [] :: lines rest
  | '\r' :: '\n' :: rest => [] :: lines rest
  | c :: rest => consFirst c (lines rest)

/-- Whether some suffix of the text, the empty one included, satisfies `p`. -/
def anySuffix (p : List Char → Bool) : List Char → Bool
  | [] => p []
  | c :: rest => p (c :: rest) || anySuffix p rest

def occurs (needle s : List Char) : Bool :=
  anySuffix needle.isPrefixOf s

end Autograder.Text
