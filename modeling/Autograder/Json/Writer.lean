import Autograder.Json.Basic

/-!
# Writing JSON

A value is written compactly, or over several lines with two spaces of indentation per level.
Strings escape quotes, backslashes and control characters only.
-/

namespace Autograder.Json

/-- How the parts of arrays and objects are set apart: what stands before each part at a depth, and
what stands between a field's name and its value. -/
structure Layout where
  lineBreak : Nat → List Char
  colon : List Char

/-- Everything on one line, without blanks. -/
def Layout.compact : Layout where
  lineBreak := fun _ => []
  colon := [':']

/-- A line for every part. -/
def Layout.indented : Layout where
  lineBreak := fun depth => '\n' :: List.replicate (2 * depth) ' '
  colon := [':', ' ']

/-- The four hexadecimal digits of a code point below `2 ^ 16`. -/
def hexDigits (n : Nat) : List Char :=
  [n / 4096 % 16, n / 256 % 16, n / 16 % 16, n % 16].map Nat.digitChar

/-- A character inside quotes. -/
def escape (c : Char) : List Char :=
  if c == '"' then ['\\', '"']
  else if c == '\\' then ['\\', '\\']
  else if c == '\n' then ['\\', 'n']
  else if c == '\r' then ['\\', 'r']
  else if c == '\t' then ['\\', 't']
  else if c.toNat == 8 then ['\\', 'b']
  else if c.toNat == 12 then ['\\', 'f']
  else if c.toNat < 32 then '\\' :: 'u' :: hexDigits c.toNat
  else [c]

/-- A string in quotes. A string that cannot be read is written empty. -/
def quote (s : Option String) : List Char :=
  '"' :: (s.getD "").toList.flatMap escape ++ ['"']

mutual

/-- The text of a value that stands at a depth. -/
def writeAt (layout : Layout) (depth : Nat) : Json → List Char
  | .null => "null".toList
  | .bool b => (if b then "true" else "false").toList
  | .number n => n.write
  | .string s => quote s
  | .array [] => ['[', ']']
  | .array (item :: items) =>
    '[' :: layout.lineBreak (depth + 1) ++ writeAt layout (depth + 1) item
      ++ writeItems layout (depth + 1) items ++ layout.lineBreak depth ++ [']']
  | .object [] => ['{', '}']
  | .object ((name, value) :: fields) =>
    '{' :: layout.lineBreak (depth + 1) ++ quote name ++ layout.colon
      ++ writeAt layout (depth + 1) value
      ++ writeFields layout (depth + 1) fields ++ layout.lineBreak depth ++ ['}']

/-- The items after the first. -/
def writeItems (layout : Layout) (depth : Nat) : List Json → List Char
  | [] => []
  | item :: items =>
    ',' :: layout.lineBreak depth ++ writeAt layout depth item ++ writeItems layout depth items

/-- The fields after the first. -/
def writeFields (layout : Layout) (depth : Nat) : List (Option String × Json) → List Char
  | [] => []
  | (name, value) :: fields =>
    ',' :: layout.lineBreak depth ++ quote name ++ layout.colon ++ writeAt layout depth value
      ++ writeFields layout depth fields

end

def compact (j : Json) : String :=
  String.ofList (writeAt .compact 0 j)

def pretty (j : Json) : String :=
  String.ofList (writeAt .indented 0 j)

end Autograder.Json
