import Autograder.Pattern.Node
import Autograder.Pattern.Utf8

/-!
# Simple forms of patterns

Patterns are put together so that the result has a simple form: sequences and alternatives do not
nest, neighbouring literals are one literal, alternatives of single characters are one set, and a
beginning that all alternatives share stands in front of them. None of this changes where a pattern
occurs, but it decides how much room the pattern takes.
-/

namespace Autograder.Pattern

namespace Node

/-- How many bytes a match has at least. Nothing if there is no match. -/
def minLength : Node → Option Nat
  | empty => some 0
  | literal chars => some (textBytes chars).length
  | set chars => chars.ranges.head?.map fun (first, _) => utf8Length first
  | anchor _ _ => some 0
  | group _ a => a.minLength
  | seq a b => do return (← a.minLength) + (← b.minLength)
  | alt a b => do return min (← a.minLength) (← b.minLength)
  | times a min _ _ => a.minLength.map (min * ·)

/-- How many bytes a match has at most. Nothing if there is no bound, or no match. -/
def maxLength : Node → Option Nat
  | empty => some 0
  | literal chars => some (textBytes chars).length
  | set chars => chars.ranges.getLast?.map fun (_, last) => utf8Length last
  | anchor _ _ => some 0
  | group _ a => a.maxLength
  | seq a b => do return (← a.maxLength) + (← b.maxLength)
  | alt a b => do return max (← a.maxLength) (← b.maxLength)
  | times a _ max _ => do return (← max) * (← a.maxLength)

/-- Whether matches can only start where the text does. -/
def startsAtStart : Node → Bool
  | anchor kind _ => kind = .textStart
  | group _ a => a.startsAtStart
  | seq a b => a.startsAtStart || (a.maxLength == some 0 && b.startsAtStart)
  | alt a b => a.startsAtStart && b.startsAtStart
  | times a min _ _ => 0 < min && a.startsAtStart
  | _ => false

/-- Whether matches can only end where the text does. -/
def endsAtEnd : Node → Bool
  | anchor kind _ => kind = .textEnd
  | group _ a => a.endsAtEnd
  | seq a b => b.endsAtEnd || (b.maxLength == some 0 && a.endsAtEnd)
  | alt a b => a.endsAtEnd && b.endsAtEnd
  | times a min _ _ => 0 < min && a.endsAtEnd
  | _ => false

def parts : Node → List Node
  | empty => []
  | seq a b => a :: b.parts
  | node => [node]

def alternatives : Node → List Node
  | alt a b => a :: b.alternatives
  | node => [node]

def ofSet (chars : CharSet) : Node :=
  match chars.ranges with
  | [(first, last)] => if first == last then literal [Char.ofNat first] else set chars
  | _ => set chars

/-- Puts a part in front of others and joins it with a literal that follows it. -/
def joinLiteral : Node → List Node → List Node
  | literal s, literal t :: rest => literal (s ++ t) :: rest
  | node, rest => node :: rest

/-- Parts one after the other, as they are. -/
def ofParts : List Node → Node
  | [] => empty
  | [node] => node
  | node :: rest => seq node (ofParts rest)

/-- Alternatives as they are. Without alternatives nothing matches. -/
def ofAlternatives : List Node → Node
  | [] => set .empty
  | [node] => node
  | node :: rest => alt node (ofAlternatives rest)

/-- Patterns one after the other. -/
def concat (nodes : List Node) : Node :=
  ofParts ((nodes.flatMap parts).foldr joinLiteral [])

def char? : Node → Option Char
  | literal [c] => some c
  | _ => none

def set? : Node → Option CharSet
  | set chars => some chars
  | _ => none

/-- The parts that two lists start with alike. -/
def commonStart : List Node → List Node → List Node
  | a :: as, b :: bs => if a = b then a :: commonStart as bs else []
  | _, _ => []

/-- What the sequences of a list start with alike. Alternatives that are no sequences share
nothing. -/
def sharedStart (nodes : List Node) : List Node :=
  match nodes.map parts with
  | [] => []
  | first :: others =>
    if (first :: others).all fun parts => 2 ≤ parts.length then others.foldl commonStart first
    else []

def size : Node → Nat
  | group _ a => a.size + 1
  | times a _ _ _ => a.size + 1
  | seq a b => a.size + b.size + 1
  | alt a b => a.size + b.size + 1
  | _ => 1

/-- A choice between patterns, with shared beginnings moved in front up to `fuel` times. -/
def chooseWithin : Nat → List Node → Node
  | 0, nodes => ofAlternatives (nodes.flatMap alternatives)
  | fuel + 1, nodes =>
    let nodes := nodes.flatMap alternatives
    if nodes.length ≤ 1 then ofAlternatives nodes
    else match nodes.mapM char?, nodes.mapM set? with
      | some chars, _ => ofSet (.ofList (chars.map CharSet.single))
      | _, some sets => ofSet (.ofList sets)
      | none, none =>
        match sharedStart nodes with
        | [] => ofAlternatives nodes
        | start =>
          let rests := nodes.map fun node => concat (node.parts.drop start.length)
          concat (start ++ [chooseWithin fuel rests])

/-- A choice between patterns. -/
def choose (nodes : List Node) : Node :=
  chooseWithin (nodes.foldl (fun n node => n + node.size) 0) nodes

/-- A repetition. What has no length is repeated once at most. -/
def repeated (a : Node) (min : Nat) (max : Option Nat) (greedy : Bool) : Node :=
  let once (n : Nat) : Nat := if n = 0 then 0 else 1
  let (min, max) :=
    if a.maxLength == some 0 then (once min, some ((max.map once).getD 1)) else (min, max)
  if min = 0 && max = some 0 then empty
  else if min = 1 && max = some 1 then a
  else times a min max greedy

end Node

end Autograder.Pattern
