import Autograder.Pattern.Simple
import Std.Data.HashMap

/-!
# The room of patterns

A pattern is accepted if two automata for it are small enough: one that reads the bytes of a text
forwards, and one that reads them backwards. Each is built state by state. A repetition with bounds
is written out, and a set of characters becomes states for the bytes of its characters, which share
what they have in common as far as a table of limited size remembers it.
-/

namespace Autograder.Pattern

/-- The room an automaton may take, in bytes. -/
def sizeLimit : Nat :=
  10 * Nat.pow 2 20

/-- What has been built: a number of states, and bytes for what they hold. -/
structure Growth where
  states : Nat := 0
  extra : Nat := 0

namespace Growth

def size (g : Growth) : Nat :=
  32 * g.states + g.extra

/-- Adds states if there is room for them. -/
def add (states extra : Nat) (g : Growth) : Option Growth :=
  let grown : Growth := ⟨g.states + states, g.extra + extra⟩
  if grown.size ≤ sizeLimit then some grown else none

end Growth

/-- The slot for a list of numbers in a table: their FNV-1a hash, taken modulo the size. -/
def slotOf (size : Nat) (numbers : List Nat) : Nat :=
  let step (hash : UInt64) (n : Nat) : UInt64 :=
    UInt64.mul (UInt64.xor hash (UInt64.ofNat n)) 1099511628211
  (numbers.foldl step 14695981039346656037).toNat % size

/-- States that are being built. A table remembers the last state of every slot by its key. -/
structure Sharing where
  growth : Growth
  table : Std.HashMap Nat (List Nat × Nat) := {}

namespace Sharing

/-- A new state, which the table remembers from now on. -/
def newState (slot : Nat) (key : List Nat) (extra : Nat) (s : Sharing) : Option (Nat × Sharing) :=
  match s with
  | ⟨growth, table⟩ =>
    (growth.add 1 extra).map fun grown =>
      (growth.states, ⟨grown, table.insert slot (key, growth.states)⟩)

/-- A state with the given key: the one that the table remembers, or a new one. -/
def state (tableSize : Nat) (key : List Nat) (extra : Nat) (s : Sharing) :
    Option (Nat × Sharing) :=
  let slot := slotOf tableSize key
  match s.table[slot]? with
  | some (known, id) => if known == key then some (id, s) else s.newState slot key extra
  | none => s.newState slot key extra

end Sharing

/-- A state that reads one byte and is not complete yet. -/
structure OpenState where
  /-- First byte, last byte and target of every transition, one after the other. -/
  key : List Nat := []
  /-- The bytes of the last transition, whose target is still open. -/
  pending : Option ByteRange := none

namespace OpenState

/-- Gives the last transition its target. -/
def freeze (target : Nat) (s : OpenState) : List Nat :=
  match s.pending with
  | some (first, last) => s.key ++ [first, last, target]
  | none => s.key

end OpenState

/-- Completes the states of a path, the deepest first, and returns the first one. -/
def closePath (target : Nat) : List OpenState → Sharing → Option (Nat × Sharing)
  | [], s => some (target, s)
  | node :: deeper, s => do
    let (next, s) ← closePath target deeper s
    let key := node.freeze next
    s.state 10000 key (8 * (key.length / 3))

/-- Follows a path as far as it agrees with a sequence, completes the rest of it and goes on with
the rest of the sequence. -/
def addSequence (target : Nat) :
    List OpenState → List ByteRange → Sharing → Option (List OpenState × Sharing)
  | node :: deeper, range :: rest, s =>
    if node.pending == some range then do
      let (deeper, s) ← addSequence target deeper rest s
      return (node :: deeper, s)
    else do
      let (next, s) ← closePath target deeper s
      let opened : List OpenState := rest.map fun range => { pending := some range }
      return ({ key := node.freeze next, pending := some range } :: opened, s)
  | path, _, s => some (path, s)

/-- States that read one of the sequences, which must ascend, forwards. -/
def addForwards (sequences : List (List ByteRange)) (g : Growth) : Option Growth := do
  let target := g.states
  let start : List OpenState × Sharing := ([{}], { growth := ← g.add 1 0 })
  let (path, s) ← sequences.foldlM (fun (path, s) sequence => addSequence target path sequence s)
    start
  let (_, s) ← closePath target path s
  return s.growth

/-- States that read a sequence backwards and end in a state. -/
def addReversed (last : Nat) (sequence : List ByteRange) (s : Sharing) :
    Option (Nat × Sharing) :=
  sequence.foldlM (fun (target, s) range => s.state 1000 [target, range.1, range.2] 0) (last, s)

/-- States that read one of the sequences backwards. -/
def addBackwards (sequences : List (List ByteRange)) (g : Growth) : Option Growth := do
  let last := g.states + 1
  let s ← sequences.foldlM (fun s sequence => do
      let (_, s) ← addReversed last sequence s
      return { s with growth := ← s.growth.add 0 4 })
    ({ growth := ← g.add 2 0 } : Sharing)
  return s.growth

/-- What has to be built for a pattern. -/
inductive Plan where
  /-- Some states, and bytes for what they hold. -/
  | states (count extra : Nat)
  /-- States for the sequences of bytes of a set. -/
  | sequences (sequences : List (List ByteRange))
  | both (a b : Plan)
  | copies (count : Nat) (a : Plan)

/-- Applies a step a number of times, as long as it succeeds. -/
def growRepeatedly (step : Growth → Option Growth) : Nat → Growth → Option Growth
  | 0, g => some g
  | n + 1, g =>
    match step g with
    | some g => growRepeatedly step n g
    | none => none

/-- Builds what a plan asks for. -/
def Plan.build (backwards : Bool) : Plan → Growth → Option Growth
  | states count extra, g => g.add count extra
  | sequences list, g => if backwards then addBackwards list g else addForwards list g
  | both a b, g => (a.build backwards g).bind (b.build backwards)
  | copies count a, g => growRepeatedly (a.build backwards) count g

/-- The endings at a place of a tree of words: a word that ends there closes a chunk of them, and
what follows makes a new one. A word that ends where no other goes on counts once. -/
def chunks (endings : List (List Nat)) : List (List (List Nat)) :=
  let step : List (List (List Nat)) × List (List Nat) → List Nat →
      List (List (List Nat)) × List (List Nat)
    | (closed, current), [] =>
      if current.isEmpty && !closed.isEmpty && closed.all List.isEmpty then (closed, current)
      else (current.reverse :: closed, [])
    | (closed, current), ending => (closed, ending :: current)
  let (closed, current) := endings.foldl step ([], [])
  (current.reverse :: closed).reverse

/-- The states of a tree of words below a place, and the bytes for what they hold, `fuel` bytes of
the words deep. -/
def treeRoom : Nat → List (List Nat) → Nat × Nat
  | 0, _ => (0, 0)
  | fuel + 1, endings =>
    let chunks := chunks endings
    if chunks.all List.isEmpty then (0, 0)
    else
      let rooms := chunks.flatMap fun chunk =>
        let bytes := (chunk.filterMap List.head?).eraseDups
        let own := if bytes.isEmpty then (0, 0)
          else if bytes.length == 1 then (1, 4)
          else (1, 8 * bytes.length + 4)
        own :: bytes.map fun byte =>
          treeRoom fuel ((chunk.filter (·.head? == some byte)).map List.tail)
      rooms.foldl (fun (states, extra) room => (states + room.1, extra + room.2))
        (1, 4 * (chunks.length - 1))

/-- The plan for a choice between words. -/
def wordsPlan (words : List (List Nat)) : Plan :=
  let (states, extra) := treeRoom ((words.map List.length).foldl max 0 + 1) words
  .states (states + 1) extra

/-- The plan for a set of characters. -/
def setPlan (chars : CharSet) : Plan :=
  if chars.ranges.all fun (_, last) => last < 0x80 then .states 2 (8 * chars.ranges.length)
  else .sequences (byteSequences chars.ranges)

/-- The place of a pattern in a choice. -/
inductive Place where
  | alone
  | second
  | later

/-- The plan for a pattern, and for the states of the choice that are built after it. -/
def Place.after (plan : Plan) : Place → Plan
  | alone => plan
  | second => .both plan (.states 2 8)
  | later => .both plan (.states 0 4)

namespace Node

/-- The bytes of a choice between literals. -/
def words? : Node → Option (List (List Nat))
  | literal chars => some [textBytes chars]
  | alt a b => do return (← a.words?) ++ (← b.words?)
  | _ => none

/-- What has to be built for a pattern. -/
def plan (backwards : Bool) : Node → Place → Plan
  | empty, place => place.after (.states 1 0)
  | literal chars, place => place.after (.states (textBytes chars).length 0)
  | set chars, place => place.after (setPlan chars)
  | anchor _ _, place => place.after (.states 1 0)
  | group _ a, place =>
    let inner := a.plan backwards .alone
    place.after (if backwards then inner else .both inner (.states 2 0))
  | seq a b, place =>
    let first := a.plan backwards .alone
    let second := b.plan backwards .alone
    place.after (if backwards then .both second first else .both first second)
  | alt a b, .alone =>
    match (alt a b).words? with
    | some words => wordsPlan (if backwards then words.map List.reverse else words)
    | none => .both (a.plan backwards .alone) (b.plan backwards .second)
  | alt a b, place => .both (place.after (a.plan backwards .alone)) (b.plan backwards .later)
  | times a min max _, place =>
    let one := a.plan backwards .alone
    place.after <| match min, max with
      | 0, some 1 => .both (.states 1 8) (.both one (.states 1 0))
      | 0, none => if a.minLength.any (0 < ·) then .both (.states 1 8) one
        else .both one (.states 3 16)
      | min, none => .both (.copies min one) (.states 1 8)
      | min, some max =>
        let required := if min == 0 then .states 1 0 else .copies min one
        if min == max then required
        else .both required (.both (.states 1 0) (.copies (max - min) (.both (.states 1 8) one)))

/-- What has to be built for an automaton: a start, which skips what comes before unless matches are
bound to the edge of the text, the pattern, and its end. -/
def fullPlan (backwards : Bool) (node : Node) : Plan :=
  let bound := if backwards then node.endsAtEnd else node.startsAtStart
  let start : Plan := if bound then .states 1 0 else .states 3 16
  .both start (.both (node.plan backwards .alone) (.states (if backwards then 1 else 3) 0))

/-- Whether both automata are small enough. -/
def fits (node : Node) : Bool :=
  [true, false].all fun backwards => ((node.fullPlan backwards).build backwards {}).isSome

end Node

end Autograder.Pattern
