/-!
# Ranges of characters as bytes

In UTF-8 a character takes one byte to four. A range of characters splits into parts whose
characters take equally many bytes, and in which each byte runs through a range of its own.
-/

namespace Autograder.Pattern

abbrev ByteRange := Nat × Nat

/-- How many bytes the character with a number takes. -/
def utf8Length (n : Nat) : Nat :=
  if n < 0x80 then 1 else if n < 0x800 then 2 else if n < 0x10000 then 3 else 4

/-- The bytes of the character with a number. -/
def utf8Bytes (n : Nat) : List Nat :=
  if n < 0x80 then [n]
  else if n < 0x800 then [0xC0 + n / 0x40, 0x80 + n % 0x40]
  else if n < 0x10000 then [0xE0 + n / 0x1000, 0x80 + n / 0x40 % 0x40, 0x80 + n % 0x40]
  else [0xF0 + n / 0x40000, 0x80 + n / 0x1000 % 0x40, 0x80 + n / 0x40 % 0x40, 0x80 + n % 0x40]

def textBytes (s : List Char) : List Nat :=
  s.flatMap fun c => utf8Bytes c.toNat

/-- Where the characters that end in `count` further bytes force a cut of a range: the last number
before the cut. -/
def blockCut? (first last block : Nat) : Option Nat :=
  if first / block == last / block then none
  else if first % block != 0 then some (first / block * block + block - 1)
  else if last % block != block - 1 then some (last / block * block - 1)
  else none

/-- Where a range has to be cut: the end of the first part and the start of the second. Surrogates
are cut out; then parts of different lengths are separated, and then the bytes made independent of
each other, the last byte first. -/
def cut? (first last : Nat) : Option (Nat × Nat) :=
  if first < 0xE000 && 0xD7FF < last then some (0xD7FF, 0xE000)
  else
    let limits := [0x7F, 0x7FF, 0xFFFF].filter fun limit => first ≤ limit && limit < last
    let blocks := if last ≤ 0x7F then []
      else [0x40, 0x1000, 0x40000].filterMap (blockCut? first last)
    (limits ++ blocks).head?.map fun n => (n, n + 1)

/-- The parts of a range, cut at most `fuel` times in a row. -/
def byteRanges : Nat → Nat → Nat → List (List ByteRange)
  | 0, _, _ => []
  | fuel + 1, first, last =>
    if last < first then []
    else match cut? first last with
      | some (left, right) => byteRanges fuel first left ++ byteRanges fuel right last
      | none => [(utf8Bytes first).zip (utf8Bytes last)]

/-- The parts of ranges, each as one range of bytes after the other. -/
def byteSequences (ranges : List (Nat × Nat)) : List (List ByteRange) :=
  ranges.flatMap fun (first, last) => byteRanges 32 first last

end Autograder.Pattern
