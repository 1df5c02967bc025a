import Autograder.Text.CaseTable
import Autograder.Text.Ranges

/-!
# Lowercase

The full lowercase mapping of Unicode. Two letters are special: `İ` becomes an `i` and a combining
dot, and `Σ` becomes `ς` at the end of a word and `σ` elsewhere.
-/

namespace Autograder.Text

/-- The image of `n` under the first row of a case table that covers it. -/
def caseImage? (rows : List (Nat × Nat × Nat × Int)) (n : Nat) : Option Nat :=
  (rows.find? fun (first, last, step, _) => first ≤ n && n ≤ last && (n - first) % step == 0).map
    fun (_, _, _, offset) => (n + offset).toNat

/-- Lowercase of a character that does not look at its neighbours. -/
def lowercaseChar (c : Char) : List Char :=
  if c.toNat < 128 then [c.toLower]
  else if c == 'İ' then ['i', '\u0307']
  else match caseImage? lowercaseTable c.toNat with
    | some n => [Char.ofNat n]
    | none => [c]

def isCased (c : Char) : Bool :=
  if c.toNat < 128 then c.isAlpha else inRanges casedTable c.toNat

/-- Characters the final sigma rule looks through. -/
def isCaseIgnorable (c : Char) : Bool :=
  if c.toNat < 128 then ['\'', '.', ':', '^', '`'].contains c
  else inRanges caseIgnorableTable c.toNat

/-- Whether the first character that is not ignorable has case. -/
def startsCased (s : List Char) : Bool :=
  match s.dropWhile isCaseIgnorable with
  | [] => false
  | c :: _ => isCased c

/-- Lowercases a text that follows `before`, which is given in reverse. -/
def lowercaseAfter (before : List Char) : List Char → List Char
  | [] => []
  | c :: rest =>
    let lowered :=
      if c == 'Σ' then
        if startsCased before && !startsCased rest then ['ς'] else ['σ']
      else lowercaseChar c
    lowered ++ lowercaseAfter (c :: before) rest

def lowercase (s : List Char) : List Char :=
  lowercaseAfter [] s

end Autograder.Text
