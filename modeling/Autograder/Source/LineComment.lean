/-!
# Line comments

A line comment starts at the first `//` of a line that is not inside a literal. Literals are
delimited by double or single quotes; this scan knows no escapes.
-/

namespace Autograder.Source

/-- The two characters that delimit literals. -/
def isQuote (c : Char) : Bool :=
  c == '"' || c == '\''

/-- Cuts a line before its comment; `quote` is the quote of the literal the line starts in. -/
def stripCommentFrom : Option Char → List Char → List Char
  | _, [] => []
  | none, '/' :: '/' :: _ => []
  | none, c :: rest => c :: stripCommentFrom (if isQuote c then some c else none) rest
  | some quote, c :: rest => c :: stripCommentFrom (if c == quote then none else some quote) rest

/-- The line before its comment. -/
def stripLineComment (line : List Char) : List Char :=
  stripCommentFrom none line

end Autograder.Source
