import Autograder.Pattern.CharSet

/-!
# Patterns and where they occur

A pattern relates positions of a text: it leads from a position to those where a match from there
may end. A pattern occurs in a text if it leads from some position to some other, so only the sets
of positions matter, not which of several matches is preferred.
-/

namespace Autograder.Pattern

open Autograder.Text

/-- A condition on the characters around a position. -/
inductive Anchor where
  | textStart
  | textEnd
  | lineStart
  | lineEnd
  /-- Lines end with a carriage return, a newline or both. -/
  | anyLineStart
  | anyLineEnd
  | wordBoundary
  | notWordBoundary
  | wordStart
  | wordEnd
  | wordStartHalf
  | wordEndHalf
deriving DecidableEq

inductive Node where
  | empty
  /-- Characters one after the other. -/
  | literal (chars : List Char)
  | set (chars : CharSet)
  /-- Holds between characters; `ascii` says that only ASCII characters make words. -/
  | anchor (kind : Anchor) (ascii : Bool)
  /-- A numbered group. -/
  | group (index : Nat) (a : Node)
  | seq (a b : Node)
  | alt (a b : Node)
  /-- At least `min` times, and at most `max` times if there is a bound. More repetitions are
  preferred if it is greedy, and fewer if not. -/
  | times (a : Node) (min : Nat) (max : Option Nat) (greedy : Bool)
deriving DecidableEq

/-- The characters before and after position `i`. -/
def neighbours (text : Array Char) (i : Nat) : Option Char × Option Char :=
  (if i == 0 then none else text[i - 1]?, text[i]?)

namespace Anchor

/-- Whether the condition depends on which characters make words. -/
def looksAtWords : Anchor → Bool
  | wordBoundary | notWordBoundary | wordStart | wordEnd | wordStartHalf | wordEndHalf => true
  | _ => false

/-- Whether the condition holds between two neighbours. -/
def holds (isWordChar : Char → Bool) (before after : Option Char) : Anchor → Bool
  | textStart => before.isNone
  | textEnd => after.isNone
  | lineStart => before.all (· == '\n')
  | lineEnd => after.all (· == '\n')
  | anyLineStart =>
    before.all (· == '\n') || (before == some '\r' && after != some '\n')
  | anyLineEnd =>
    after.all (· == '\r') || (after == some '\n' && before != some '\r')
  | wordBoundary => before.any isWordChar != after.any isWordChar
  | notWordBoundary => before.any isWordChar == after.any isWordChar
  | wordStart => !before.any isWordChar && after.any isWordChar
  | wordEnd => before.any isWordChar && !after.any isWordChar
  | wordStartHalf => !before.any isWordChar
  | wordEndHalf => !after.any isWordChar

end Anchor

/-- An ascending list of positions. -/
abbrev Positions := List Nat

/-- The positions of both lists. -/
def mergePositions : Positions → Positions → Positions
  | [], bs => bs
  | as, [] => as
  | a :: as, b :: bs =>
    if a < b then a :: mergePositions as (b :: bs)
    else if b < a then b :: mergePositions (a :: as) bs
    else a :: mergePositions as bs

/-- The positions of the first list that the second does not have. -/
def newPositions : Positions → Positions → Positions
  | [], _ => []
  | as, [] => as
  | a :: as, b :: bs =>
    if a < b then a :: newPositions as (b :: bs)
    else if b < a then newPositions (a :: as) bs
    else newPositions as bs

/-- Applies a step a number of times. -/
def iterate (step : Positions → Positions) : Nat → Positions → Positions
  | 0, positions => positions
  | n + 1, positions =>
    if positions.isEmpty then positions else iterate step n (step positions)

/-- The positions reached in at most `n` steps: `reached` so far, of which `fresh` in the last
step. -/
def closure (step : Positions → Positions) : Nat → Positions → Positions → Positions
  | 0, reached, _ => reached
  | n + 1, reached, fresh =>
    let next := newPositions (step fresh) reached
    if next.isEmpty then reached else closure step n (mergePositions reached next) next

namespace Node

/-- The positions where matches from the given positions end. Without an upper bound a repetition
need not be followed longer than the text has positions. -/
def ends (text : Array Char) : Node → Positions → Positions
  | empty, positions => positions
  | literal chars, positions => chars.foldl (fun positions c => positions.filterMap fun i =>
    if text[i]? == some c then some (i + 1) else none) positions
  | set chars, positions => positions.filterMap fun i =>
    if text[i]?.any fun c => chars.contains c.toNat then some (i + 1) else none
  | anchor kind ascii, positions => positions.filter fun i =>
    let (before, after) := neighbours text i
    kind.holds (fun c => isWord c && (!ascii || c.toNat < 128)) before after
  | group _ a, positions => a.ends text positions
  | seq a b, positions => b.ends text (a.ends text positions)
  | alt a b, positions => mergePositions (a.ends text positions) (b.ends text positions)
  | times a min max _, positions =>
    let start := iterate (a.ends text) min positions
    closure (a.ends text) ((max.map (· - min)).getD (text.size + 1)) start start

def occursIn (node : Node) (text : List Char) : Bool :=
  !(node.ends text.toArray (List.range (text.length + 1))).isEmpty

end Node

end Autograder.Pattern
