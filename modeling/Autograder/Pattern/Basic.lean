import Autograder.Pattern.Reader
import Autograder.Pattern.Room

/-!
# Checked patterns

A pattern is accepted if it can be read and does not take too much room.
-/

namespace Autograder.Pattern

inductive Refusal where
  | unreadable
  | tooLarge
deriving DecidableEq

/-- The first line of the description of a refusal. -/
def Refusal.message : Refusal → String
  | unreadable => "regex parse error:"
  | tooLarge => "Compiled regex exceeds size limit of " ++ toString sizeLimit ++ " bytes."

/-- The pattern that a text writes, if it is accepted. -/
def parse (text : String) : Except Refusal Node :=
  match read? text with
  | none => .error .unreadable
  | some node => if node.fits then .ok node else .error .tooLarge

end Autograder.Pattern
