import Autograder.Source.LineComment

/-!
# Masking comments and literals

Masking writes spaces over comments and over the contents of literals, so that what remains can be
read line by line without looking inside them. Newlines and quotes stay, and no character moves.
-/

namespace Autograder.Source

/-- What the scan is inside of. -/
inductive MaskState where
  | code
  | lineComment
  | blockComment
  | literal (quote : Char)
deriving DecidableEq

/-- A space, or the newline that must not get lost. -/
def blankOut (c : Char) : Char :=
  if c == '\n' then '\n' else ' '

/-- Masks a text that starts in the given state. A literal ends with its line at the latest; a
backslash in it escapes the next character, be it a newline. -/
def maskFrom : MaskState → List Char → List Char
  | _, [] => []
  | .code, '/' :: '/' :: rest => ' ' :: ' ' :: maskFrom .lineComment rest
  | .code, '/' :: '*' :: rest => ' ' :: ' ' :: maskFrom .blockComment rest
  | .code, c :: rest => c :: maskFrom (if isQuote c then .literal c else .code) rest
  | .lineComment, c :: rest =>
    blankOut c :: maskFrom (if c == '\n' then .code else .lineComment) rest
  | .blockComment, '*' :: '/' :: rest => ' ' :: ' ' :: maskFrom .code rest
  | .blockComment, c :: rest => blankOut c :: maskFrom .blockComment rest
  | .literal quote, '\\' :: c :: rest => ' ' :: blankOut c :: maskFrom (.literal quote) rest
  | .literal quote, c :: rest =>
    if c == '\n' then c :: maskFrom .code rest
    else if c == '\\' then [' ']
    else if c == quote then c :: maskFrom .code rest
    else ' ' :: maskFrom (.literal quote) rest

/-- The text with comments and contents of literals blanked out. -/
def mask (code : List Char) : List Char :=
  maskFrom .code code

end Autograder.Source
