import Autograder.Log.Unseen

/-!
# Quoted text in log records

A text inside a record stands between double quotes. Quotes, backslashes and what cannot be seen are
escaped, and so are the marks that would join the character before them.
-/

namespace Autograder.Log

open Autograder.Text

/-- Whether a character is written by its number. -/
def isNumbered (c : Char) : Bool :=
  if c.toNat < 128 then c.toNat < 32 || c.toNat == 127
  else inRanges extendingRanges c.toNat || inRanges unseenRanges c.toNat

/-- A character by its number. -/
def numbered (c : Char) : List Char :=
  "\\u\x7b".toList ++ Nat.toDigits 16 c.toNat ++ ['}']

/-- A character inside quotes. -/
def quotedChar (c : Char) : List Char :=
  if c == '"' then ['\\', '"']
  else if c == '\\' then ['\\', '\\']
  else if c == '\n' then ['\\', 'n']
  else if c == '\r' then ['\\', 'r']
  else if c == '\t' then ['\\', 't']
  else if c == '\x00' then ['\\', '0']
  else if isNumbered c then numbered c
  else [c]

def quoted (text : String) : String :=
  String.ofList ('"' :: text.toList.flatMap quotedChar ++ ['"'])

end Autograder.Log
