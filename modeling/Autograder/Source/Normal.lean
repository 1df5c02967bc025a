import Autograder.Text.Blank
import Autograder.Text.Lowercase
import Autograder.Text.Split

/-!
# Normal form of source text

Two texts count as the same program when their normal forms agree. Normalizing removes line
comments, then block comments, writes every run of blanks as one space, trims the ends and
lowercases. It does not look at literals.
-/

namespace Autograder.Source

open Autograder.Text

/-- Removes every `//` up to the end of its line; `inside` says that the text starts in one. -/
def dropLineCommentsFrom : Bool → List Char → List Char
  | _, [] => []
  | true, c :: rest =>
    if c == '\n' then c :: dropLineCommentsFrom false rest else dropLineCommentsFrom true rest
  | false, '/' :: '/' :: rest => dropLineCommentsFrom true rest
  | false, c :: rest => c :: dropLineCommentsFrom false rest

/-- Removes every `/*` up to the next `*/`; an opening without a close stays. `inside` says that
the text starts in a comment. -/
def dropBlockCommentsFrom : Bool → List Char → List Char
  | _, [] => []
  | true, '*' :: '/' :: rest => dropBlockCommentsFrom false rest
  | true, _ :: rest => dropBlockCommentsFrom true rest
  | false, '/' :: '*' :: rest =>
    if occurs ['*', '/'] rest then dropBlockCommentsFrom true rest else '/' :: '*' :: rest
  | false, c :: rest => c :: dropBlockCommentsFrom false rest

/-- The text without line comments. -/
def dropLineComments (s : List Char) : List Char :=
  dropLineCommentsFrom false s

/-- The text without block comments. -/
def dropBlockComments (s : List Char) : List Char :=
  dropBlockCommentsFrom false s

/-- The normal form of a source text. -/
def normalize (s : List Char) : List Char :=
  lowercase (trim (collapseBlanks (dropBlockComments (dropLineComments s))))

end Autograder.Source
