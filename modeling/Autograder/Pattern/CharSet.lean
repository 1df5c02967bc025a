import Autograder.Pattern.FoldTable
import Autograder.Text.Blank
import Autograder.Text.Word

/-!
# Sets of characters

The sets that patterns speak of: closed ranges of code points, ascending and with gaps between them.
They are combined by union, intersection, difference and complement, and closed under letter case.
-/

namespace Autograder.Pattern

open Autograder.Text

/-- A set of characters, as closed ranges of code points. -/
structure CharSet where
  ranges : List (Nat × Nat)
deriving DecidableEq

def lastCodePoint : Nat :=
  0x10FFFF

/-- The number of the character after another. Surrogates are no characters. -/
def nextChar (n : Nat) : Nat :=
  if n == 0xD7FF then 0xE000 else n + 1

def previousChar (n : Nat) : Nat :=
  if n == 0xE000 then 0xD7FF else n - 1

namespace CharSet

def empty : CharSet :=
  ⟨[]⟩

def range (first last : Nat) : CharSet :=
  ⟨[(first, last)]⟩

def single (c : Char) : CharSet :=
  range c.toNat c.toNat

def contains (s : CharSet) (n : Nat) : Bool :=
  inRanges s.ranges n

/-- Joins a range with those after it that it overlaps or touches, and so on. -/
def absorb (current : Nat × Nat) : List (Nat × Nat) → List (Nat × Nat)
  | [] => [current]
  | next :: rest =>
    if next.1 ≤ current.2 + 1 then absorb (current.1, max current.2 next.2) rest
    else current :: absorb next rest

/-- The set of ranges in any order, which may overlap. -/
def ofRanges (ranges : List (Nat × Nat)) : CharSet :=
  match ranges.mergeSort fun a b => a.1 < b.1 || (a.1 == b.1 && a.2 ≤ b.2) with
  | [] => empty
  | first :: rest => ⟨absorb first rest⟩

def union (a b : CharSet) : CharSet :=
  ofRanges (a.ranges ++ b.ranges)

/-- The characters of all sets of a list. -/
def ofList (sets : List CharSet) : CharSet :=
  ofRanges (sets.flatMap CharSet.ranges)

def inter (a b : CharSet) : CharSet :=
  ⟨a.ranges.flatMap fun (first, last) => b.ranges.filterMap fun (first', last') =>
    if max first first' ≤ min last last' then some (max first first', min last last') else none⟩

/-- What is left of a range without the characters from `first` to `last`. -/
def cut (first last : Nat) (range : Nat × Nat) : List (Nat × Nat) :=
  if last < range.1 || range.2 < first then [range]
  else (if range.1 < first then [(range.1, previousChar first)] else []) ++
    (if last < range.2 then [(nextChar last, range.2)] else [])

def diff (a b : CharSet) : CharSet :=
  ⟨b.ranges.foldl (fun left (first, last) => left.flatMap (cut first last)) a.ranges⟩

/-- The characters that exactly one of the sets has. -/
def symmDiff (a b : CharSet) : CharSet :=
  (a.union b).diff (a.inter b)

/-- The range between two characters, whichever of them comes first. -/
def between (a b : Nat) : Nat × Nat :=
  (min a b, max a b)

/-- What lies between the ranges and behind them, the range before them ending with `last`. -/
def gaps (last : Nat) : List (Nat × Nat) → List (Nat × Nat)
  | [] => if last < lastCodePoint then [(nextChar last, lastCodePoint)] else []
  | (first, last') :: rest => between (nextChar last) (previousChar first) :: gaps last' rest

def compl (s : CharSet) : CharSet :=
  match s.ranges with
  | [] => range 0 lastCodePoint
  | (first, last) :: rest =>
    ⟨(if 0 < first then [(0, previousChar first)] else []) ++ gaps last rest⟩

/-- The images of a range under a row of a case table. -/
def images (range : Nat × Nat) : Nat × Nat × Nat × Int → List (Nat × Nat)
  | (first, last, step, offset) =>
    let low := max first range.1
    let high := min last range.2
    let start := low + (step - (low - first) % step) % step
    let image (n : Nat) : Nat := (n + offset).toNat
    if high < start then []
    else if step == 1 then [(image start, image high)]
    else (List.range ((high - start) / step + 1)).map fun k =>
      (image (start + k * step), image (start + k * step))

/-- The row that leads back from the images. -/
def reverseRow : Nat × Nat × Nat × Int → Nat × Nat × Nat × Int
  | (first, last, step, offset) => ((first + offset).toNat, (last + offset).toNat, step, -offset)

/-- The characters that have an image in common with a member. -/
def closeUnder (table : List (Nat × Nat × Nat × Int)) (s : CharSet) : CharSet :=
  let forth := s.ranges ++ s.ranges.flatMap fun range => table.flatMap (images range)
  let back := forth.flatMap fun range => table.flatMap fun row => images range (reverseRow row)
  ofRanges (forth ++ back)

/-- The characters that differ from a member in letter case at most. -/
def caseless (s : CharSet) : CharSet :=
  s.closeUnder foldTable

/-- The characters that differ from a member in the case of an ASCII letter at most. -/
def asciiCaseless (s : CharSet) : CharSet :=
  s.closeUnder [(65, 90, 1, 32)]

def word : CharSet :=
  ofRanges ([(0x30, 0x39), (0x41, 0x5A), (0x5F, 0x5F), (0x61, 0x7A)] ++ wordTable)

def digit : CharSet :=
  ofRanges ((0x30, 0x39) :: digitTable)

def blank : CharSet :=
  ofRanges blankRanges

end CharSet

end Autograder.Pattern
