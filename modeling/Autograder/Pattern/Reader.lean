import Autograder.Pattern.Property
import Autograder.Pattern.Simple
import Autograder.Text.Letter

/-!
# Reading patterns

The notation of patterns: literal characters, escapes, bracketed sets with set operations, groups
with names and flags, alternatives and repetitions. Flags change how what follows is read, up to the
end of the group they stand in. A text that is not a pattern reads as nothing.
-/

namespace Autograder.Pattern

open Autograder.Text

/-- The flags in force at a place. -/
structure Flags where
  ignoreCase : Bool := false
  multiLine : Bool := false
  dotAll : Bool := false
  /-- Lines end with a carriage return, a newline or both. -/
  anyLineEnd : Bool := false
  /-- Repetitions with a question mark behind them are greedy, and the others are not. -/
  swapGreed : Bool := false
  /-- Classes and case follow Unicode, not ASCII alone. -/
  unicode : Bool := true
  /-- Blanks and comments are skipped. -/
  verbose : Bool := false
deriving DecidableEq

/-- What is left of the text, the flags in force, and how many groups and which group names there
have been so far. -/
structure ReadState where
  rest : List Char
  flags : Flags := {}
  groups : Nat := 0
  names : List (List Char) := []

/-- A step of reading, which may fail. -/
abbrev Reading := StateT ReadState Option

/-- The text without blanks and comments; `comment` says that it starts in a comment. -/
def dropVerbose : Bool → List Char → List Char
  | _, [] => []
  | true, c :: rest => dropVerbose (c != '\n') rest
  | false, c :: rest =>
    if isBlank c then dropVerbose false rest
    else if c == '#' then dropVerbose true rest
    else c :: rest

namespace Reading

def flags : Reading Flags :=
  return (← get).flags

/-- What is left of the text. -/
def rest : Reading (List Char) :=
  return (← get).rest

/-- Goes on with another text. -/
def goOn (s : List Char) : Reading Unit :=
  modify fun state => { state with rest := s }

/-- Skips blanks and comments if they do not count. -/
def skip : Reading Unit :=
  modify fun state =>
    if state.flags.verbose then { state with rest := dropVerbose false state.rest } else state

/-- Goes on with another text, after blanks and comments that do not count. -/
def goOnSkipping (s : List Char) : Reading Unit := do
  goOn s
  skip

end Reading

/-- A text without the blanks at its start and one `#` among them. -/
def dropBlanksAndHash (s : List Char) : List Char :=
  match trimStart s with
  | '#' :: rest => trimStart rest
  | rest => rest

/-- The next character that counts after a text's first, without going there. Comments are not left
out here, but for the `#` of the first; and of nothing but blanks the first counts. -/
def peekAfter (verbose : Bool) (s : List Char) : Option Char :=
  let after := s.drop 1
  if verbose then (dropBlanksAndHash after).head?.or after.head? else after.head?

/-- The characters that have a meaning of their own and stand for themselves after a backslash. -/
def metaCharacters : List Char :=
  ['\\', '.', '+', '*', '?', '(', ')', '|', '[', ']', '\x7b', '\x7d', '^', '$', '#', '&', '-',
   '~']

/-- Whether a backslash before the character makes it stand for itself. -/
def isEscapable (c : Char) : Bool :=
  metaCharacters.contains c || (c.toNat < 128 && !c.isAlphanum && c != '<' && c != '>')

def hexDigit? (c : Char) : Option Nat :=
  if c.isDigit then some (c.toNat - '0'.toNat)
  else if 'a' ≤ c && c ≤ 'f' then some (c.toNat - 'a'.toNat + 10)
  else if 'A' ≤ c && c ≤ 'F' then some (c.toNat - 'A'.toNat + 10)
  else none

/-- The character with a number, if there is one. -/
def charOf? (n : Nat) : Option Char :=
  if n < 0xD800 || (0xE000 ≤ n && n ≤ 0x10FFFF) then some (Char.ofNat n) else none

/-- What an escape, or a character without backslash, reads as. -/
inductive Primitive where
  /-- A character; `byte` says that its number was written with two digits. -/
  | literal (c : Char) (byte : Bool)
  | set (chars : CharSet)
  | anchor (kind : Anchor)

/-- A set closed under case if case is ignored, then complemented if asked. Without Unicode no
complement can be matched within text. -/
def foldAndNegate (flags : Flags) (negated : Bool) (chars : CharSet) : Option CharSet :=
  let folded :=
    if !flags.ignoreCase then chars
    else if flags.unicode then chars.caseless
    else chars.asciiCaseless
  if !negated then some folded
  else if flags.unicode then some folded.compl
  else none

/-- The digits and capitals of ASCII, and other sets that classes are made of. -/
def asciiDigits : CharSet := .range 0x30 0x39

def asciiLower : CharSet := .range 0x61 0x7A

def asciiUpper : CharSet := .range 0x41 0x5A

def asciiAlnum : CharSet := .ofList [asciiDigits, asciiLower, asciiUpper]

def asciiBlanks : CharSet := .union (.range 0x09 0x0D) (.range 0x20 0x20)

/-- The ASCII class of a name between brackets and colons. -/
def namedClass? (name : String) : Option CharSet :=
  match name with
  | "alnum" => some asciiAlnum
  | "alpha" => some (.union asciiLower asciiUpper)
  | "ascii" => some (.range 0 0x7F)
  | "blank" => some (.union (.range 0x09 0x09) (.range 0x20 0x20))
  | "cntrl" => some (.union (.range 0 0x1F) (.range 0x7F 0x7F))
  | "digit" => some asciiDigits
  | "graph" => some (.range 0x21 0x7E)
  | "lower" => some asciiLower
  | "print" => some (.range 0x20 0x7E)
  | "punct" =>
    some (.ofList [.range 0x21 0x2F, .range 0x3A 0x40, .range 0x5B 0x60, .range 0x7B 0x7E])
  | "space" => some asciiBlanks
  | "upper" => some asciiUpper
  | "word" => some (.union asciiAlnum (.single '_'))
  | "xdigit" => some (.ofList [asciiDigits, .range 0x41 0x46, .range 0x61 0x66])
  | _ => none

/-- The class of a letter after a backslash, given in lowercase. -/
def letterClass (unicode : Bool) (letter : Char) : CharSet :=
  if letter == 'd' then if unicode then .digit else asciiDigits
  else if letter == 's' then if unicode then .blank else asciiBlanks
  else if unicode then .word else .union asciiAlnum (.single '_')

/-- The character that a letter after a backslash stands for. -/
def controlOf? (c : Char) : Option Char :=
  match c with
  | 'a' => some '\x07'
  | 'f' => some '\x0C'
  | 't' => some '\t'
  | 'n' => some '\n'
  | 'r' => some '\r'
  | 'v' => some '\x0B'
  | _ => none

/-- The condition with a name between braces. -/
def namedBoundary? (name : String) : Option Anchor :=
  match name with
  | "start" => some .wordStart
  | "end" => some .wordEnd
  | "start-half" => some .wordStartHalf
  | "end-half" => some .wordEndHalf
  | _ => none

namespace Reading

/-- Characters as long as they satisfy `p`; blanks and comments that do not count are skipped after
each. At most `fuel` are read. -/
def takeCounting (p : Char → Bool) : Nat → Reading (List Char)
  | 0 => return []
  | fuel + 1 => do
    match ← rest with
    | c :: more =>
      if p c then
        goOnSkipping more
        return c :: (← takeCounting p fuel)
      else return []
    | [] => return []

/-- Exactly `count` hexadecimal digits, and the number they write behind `value`. -/
def hexDigits : Nat → Nat → Reading Nat
  | 0, value => return value
  | count + 1, value => do
    match ← rest with
    | c :: more =>
      let digit ← hexDigit? c
      goOnSkipping more
      hexDigits count (16 * value + digit)
    | [] => failure

/-- Skips the character `c`, which must come next. -/
def expect (c : Char) : Reading Unit := do
  match ← rest with
  | d :: more => if c == d then goOn more else failure
  | [] => failure

/-- The number of a character after the letter that announces it: in braces, or `count` digits. -/
def hexLiteral (count : Nat) : Reading Primitive := do
  match ← rest with
  | '\x7b' :: more =>
    goOnSkipping more
    let digits ← takeCounting (fun c => (hexDigit? c).isSome) more.length
    expect '\x7d'
    skip
    if digits.isEmpty then failure
    let n := digits.foldl (fun n c => 16 * n + (hexDigit? c).getD 0) 0
    return .literal (← charOf? n) false
  | _ =>
    let n ← hexDigits count 0
    return .literal (← charOf? n) (count == 2)

/-- A property after the letter that announces it: one letter, or a name or a name and a value in
braces. -/
def propertyClass (negated : Bool) : Reading Primitive := do
  let flags ← flags
  let s ← rest
  let (chars, negated) ← match s with
    | '\x7b' :: more =>
      goOnSkipping more
      let name ← takeCounting (· != '\x7d') more.length
      expect '\x7d'
      let valued (separator : List Char) : Option (Option CharSet) :=
        let before := name.takeWhile (· != separator.headD ' ')
        let after := name.drop before.length
        if separator.isPrefixOf after then
          some (propertyValue? before (after.drop separator.length))
        else none
      match valued ['!', '='] with
      | some found => pure (found, !negated)
      | none =>
        match (valued [':']).or (valued ['=']) with
        | some found => pure (found, negated)
        | none => pure (property? name, negated)
    | '\\' :: _ => failure
    | c :: more =>
      goOnSkipping more
      pure (property? [c], negated)
    | [] => failure
  if flags.unicode then
    return .set (← foldAndNegate flags negated (← chars))
  else failure

/-- A word boundary after its letter, with or without a name in braces. Braces that hold something
else are left for a repetition. -/
def boundary : Reading Primitive := do
  let s ← rest
  let inName (c : Char) : Bool := c.isAlpha || c == '-'
  match s with
  | '\x7b' :: more =>
    goOnSkipping more
    match ← rest with
    | [] => failure
    | c :: _ =>
      if inName c then
        let name ← takeCounting inName more.length
        expect '\x7d'
        return .anchor (← namedBoundary? (String.ofList name))
      else
        goOn s
        return .anchor .wordBoundary
  | _ => return .anchor .wordBoundary

/-- What follows a backslash. -/
def escape : Reading Primitive := do
  match ← rest with
  | [] => failure
  | c :: more =>
    if c == 'x' || c == 'u' || c == 'U' then
      goOnSkipping more
      hexLiteral (if c == 'x' then 2 else if c == 'u' then 4 else 8)
    else if c == 'p' || c == 'P' then
      goOnSkipping more
      propertyClass (c == 'P')
    else if ['d', 's', 'w', 'D', 'S', 'W'].contains c then
      goOn more
      let flags ← flags
      let chars := letterClass flags.unicode c.toLower
      return .set (← foldAndNegate { flags with ignoreCase := false } c.isUpper chars)
    else
      goOn more
      if isEscapable c then return .literal c false
      match controlOf? c with
      | some control => return .literal control false
      | none =>
        if c == 'A' then return .anchor .textStart
        else if c == 'z' then return .anchor .textEnd
        else if c == 'b' then boundary
        else if c == 'B' then return .anchor .notWordBoundary
        else if c == '<' then return .anchor .wordStart
        else if c == '>' then return .anchor .wordEnd
        else failure

end Reading

/-- A set with the depth of its nesting. -/
structure SetItem where
  chars : CharSet
  depth : Nat

inductive SetOperation where
  | inter
  | diff
  | symmDiff
deriving DecidableEq

namespace SetItem

/-- The union of items, the last one first. -/
def union (items : List SetItem) : SetItem :=
  match items with
  | [item] => item
  | [] => ⟨.empty, 0⟩
  | _ => ⟨.ofList (items.map SetItem.chars), (items.map SetItem.depth).foldl max 0 + 1⟩

/-- Applies an operation. If case is ignored, the operands are closed under it first. -/
def combine (flags : Flags) (operation : SetOperation) (a b : SetItem) : Option SetItem := do
  let left ← foldAndNegate flags false a.chars
  let right ← foldAndNegate flags false b.chars
  let chars := match operation with
    | .inter => left.inter right
    | .diff => left.diff right
    | .symmDiff => left.symmDiff right
  return ⟨chars, max a.depth b.depth + 1⟩

/-- Applies the operation that is waiting for its right operand, if there is one. -/
def finish (flags : Flags) (waiting : Option (SetOperation × SetItem)) (item : SetItem) :
    Option SetItem :=
  match waiting with
  | none => some item
  | some (operation, left) => combine flags operation left item

end SetItem

/-- The operation that a text starts with. -/
def setOperation? : List Char → Option SetOperation
  | '&' :: '&' :: _ => some .inter
  | '-' :: '-' :: _ => some .diff
  | '~' :: '~' :: _ => some .symmDiff
  | _ => none

/-- An ASCII class between `[:` and `:]`, whether it is negated, and the text after it. -/
def readNamedClass? (s : List Char) : Option (CharSet × Bool × List Char) := do
  match s with
  | '[' :: ':' :: more =>
    let (negated, more) := match more with
      | '^' :: more => (true, more)
      | _ => (false, more)
    let name := more.takeWhile (· != ':')
    match more.drop name.length with
    | ':' :: ']' :: after => return (← namedClass? (String.ofList name), negated, after)
    | _ => none
  | _ => none

namespace Reading

/-- A character or an escape inside brackets. -/
def setPrimitive : Reading Primitive := do
  match ← rest with
  | '\\' :: more =>
    goOn more
    escape
  | c :: more =>
    goOn more
    return .literal c false
  | [] => failure

/-- The character of a literal inside brackets. Without Unicode it must be ASCII. -/
def setLiteral (primitive : Primitive) : Reading Char := do
  match primitive with
  | .literal c _ =>
    if (← flags).unicode || c.toNat < 128 then return c else failure
  | _ => failure

/-- A character, an escape or a range inside brackets. A hyphen before a closing bracket or another
hyphen makes no range. -/
def setItem : Reading SetItem := do
  let first ← setPrimitive
  skip
  let s ← rest
  let verbose := (← flags).verbose
  let next := peekAfter verbose s
  if s.isEmpty then failure
  if s.head? != some '-' || next == some ']' || next == some '-' then
    match first with
    | .set chars => return ⟨chars, 0⟩
    | _ => return ⟨.single (← setLiteral first), 0⟩
  else
    goOnSkipping (s.drop 1)
    let last ← setPrimitive
    let low ← setLiteral first
    let high ← setLiteral last
    if low ≤ high then return ⟨.range low.toNat high.toNat, 0⟩ else failure

/-- The hyphens right after the opening of a bracket, of which the text must not consist. -/
def leadingHyphens : Nat → Reading (List SetItem)
  | 0 => return []
  | fuel + 1 => do
    match ← rest with
    | '-' :: more =>
      goOnSkipping more
      return ⟨.single '-', 0⟩ :: (← leadingHyphens fuel)
    | _ => return []

/-- The opening of a bracket: whether it is negated, and the hyphens, or the one closing bracket,
that stand for themselves there. -/
def openBracket : Reading (Bool × List SetItem) := do
  let s ← rest
  goOnSkipping (s.drop 1)
  let negated := (← rest).head? == some '^'
  if negated then goOnSkipping ((← rest).drop 1)
  let hyphens ← leadingHyphens s.length
  match ← rest with
  | ']' :: more =>
    if hyphens.isEmpty then
      goOnSkipping more
      return (negated, [⟨.single ']', 0⟩])
    else return (negated, hyphens)
  | _ => return (negated, hyphens)

mutual

/-- A set in brackets, from its opening bracket on. -/
def bracket : Nat → Reading SetItem
  | 0 => failure
  | fuel + 1 => do
    let (negated, items) ← openBracket
    let item ← bracketItems fuel none items
    return ⟨← foldAndNegate (← flags) negated item.chars, item.depth + 1⟩

/-- What stands in brackets up to their end. The items read since the last operation are given, the
last one first, and the operation that waits for them. -/
def bracketItems : Nat → Option (SetOperation × SetItem) → List SetItem → Reading SetItem
  | 0, _, _ => failure
  | fuel + 1, waiting, items => do
    skip
    let flags ← flags
    let s ← rest
    match setOperation? s with
    | some operation =>
      let left ← SetItem.finish flags waiting (.union items)
      goOn (s.drop 2)
      bracketItems fuel (some (operation, left)) []
    | none =>
      match s with
      | [] => failure
      | ']' :: more =>
        goOn more
        SetItem.finish flags waiting (.union items)
      | '[' :: _ =>
        match readNamedClass? s with
        | some (chars, negated, more) =>
          goOn more
          let chars ← foldAndNegate flags negated chars
          bracketItems fuel waiting (⟨chars, 0⟩ :: items)
        | none =>
          let item ← bracket fuel
          bracketItems fuel waiting (item :: items)
      | _ =>
        let item ← setItem
        bracketItems fuel waiting (item :: items)

end

end Reading

/-- A part of a sequence: a pattern with the depth of its nesting, and whether it may be repeated. A
place where flags are set may not. -/
structure Item where
  node : Node
  depth : Nat
  repeatable : Bool := true

namespace Item

/-- The depth of a list of parts, which nest one level deeper if there are several. -/
def listDepth (items : List Item) : Nat :=
  match items with
  | [] => 0
  | [item] => item.depth
  | _ => (items.map Item.depth).foldl max 0 + 1

def sequence (items : List Item) : Item :=
  { node := .concat (items.reverse.map Item.node), depth := listDepth items }

/-- Alternatives, the last one first. -/
def choice (items : List Item) : Item :=
  { node := .choose (items.reverse.map Item.node), depth := listDepth items }

end Item

namespace Reading

/-- A literal character. If case is ignored, it also matches in other cases. Without Unicode a
number of two digits beyond ASCII is no character. -/
def literalSet (c : Char) (byte : Bool) : Reading CharSet := do
  let flags ← flags
  if flags.unicode then
    return if flags.ignoreCase then (CharSet.single c).caseless else .single c
  else if byte && 128 ≤ c.toNat then failure
  else return if flags.ignoreCase then (CharSet.single c).asciiCaseless else .single c

/-- The set that a dot matches. Without Unicode it could match half a character. -/
def dotSet : Reading CharSet := do
  let flags ← flags
  if !flags.unicode then failure
  else if flags.dotAll then return .range 0 lastCodePoint
  else if flags.anyLineEnd then return (CharSet.ofList [.single '\n', .single '\r']).compl
  else return (CharSet.single '\n').compl

/-- The start or the end of the text, or of a line. -/
def edge (text line anyLine : Anchor) : Reading Primitive := do
  let flags ← flags
  if !flags.multiLine then return .anchor text
  else if flags.anyLineEnd then return .anchor anyLine
  else return .anchor line

/-- One character, class or condition. -/
def single : Reading Item := do
  let primitive ← match ← rest with
    | '\\' :: more => do
      goOn more
      escape
    | '.' :: more => do
      goOn more
      pure (.set (← dotSet))
    | '^' :: more => do
      goOn more
      edge .textStart .lineStart .anyLineStart
    | '$' :: more => do
      goOn more
      edge .textEnd .lineEnd .anyLineEnd
    | c :: more => do
      goOn more
      pure (.literal c false)
    | [] => failure
  match primitive with
  | .literal c byte => return { node := .ofSet (← literalSet c byte), depth := 0 }
  | .set chars => return { node := .ofSet chars, depth := 0 }
  | .anchor kind =>
    return { node := .anchor kind (kind.looksAtWords && !(← flags).unicode), depth := 0 }

/-- The last part of a sequence, to be repeated, and the parts before it. -/
def repeated (items : List Item) : Reading (Item × List Item) :=
  match items with
  | item :: others => if item.repeatable then return (item, others) else failure
  | [] => failure

/-- Whether a repetition is greedy. A question mark behind it says the opposite. -/
def greedy : Reading Bool := do
  let swapped := (← flags).swapGreed
  match ← rest with
  | '?' :: more =>
    goOn more
    return swapped
  | _ => return !swapped

/-- A number of at most 32 bits between blanks. -/
def decimal : Reading Nat := do
  goOn (trimStart (← rest))
  let digits ← takeCounting Char.isDigit (← rest).length
  goOn (trimStart (← rest))
  skip
  let n := digits.foldl (fun n c => 10 * n + (c.toNat - '0'.toNat)) 0
  if digits.isEmpty || Nat.pow 2 32 ≤ n then failure else return n

/-- The bounds of a repetition in braces. -/
def bounds : Reading (Nat × Option Nat) := do
  goOnSkipping ((← rest).drop 1)
  let min ← decimal
  let max ← match ← rest with
    | ',' :: more => do
      goOnSkipping more
      if (← rest).head? == some '\x7d' then pure none else pure (some (← decimal))
    | _ => pure (some min)
  expect '\x7d'
  skip
  if max.all (min ≤ ·) then return (min, max) else failure

/-- The bounds of the repetition that the text starts with, and whether it is greedy. -/
def repetition : Reading ((Nat × Option Nat) × Bool) := do
  let bounds ← match ← rest with
    | '?' :: more => do
      goOn more
      pure (0, some 1)
    | '*' :: more => do
      goOn more
      pure (0, none)
    | '+' :: more => do
      goOn more
      pure (1, none)
    | _ => bounds
  return (bounds, ← greedy)

/-- Sets a flag by its letter. -/
def setFlag? (c : Char) (value : Bool) (flags : Flags) : Option Flags :=
  match c with
  | 'i' => some { flags with ignoreCase := value }
  | 'm' => some { flags with multiLine := value }
  | 's' => some { flags with dotAll := value }
  | 'R' => some { flags with anyLineEnd := value }
  | 'u' => some { flags with unicode := value }
  | 'x' => some { flags with verbose := value }
  | 'U' => some { flags with swapGreed := value }
  | _ => none

/-- Flags up to a colon or a closing parenthesis. Every letter may stand once, and so may the
hyphen after which flags are cleared, but not at the end. -/
def setFlags? (value : Bool) (flags : Flags) : List Char → Option Flags
  | [] => some flags
  | ['-'] => none
  | '-' :: more => if value then setFlags? false flags more else none
  | c :: more =>
    if more.contains c then none
    else (setFlag? c value flags).bind fun flags => setFlags? value flags more

/-- Whether the character may stand in a group name, where only letters and underscores come
first. -/
def isNameChar (first : Bool) (c : Char) : Bool :=
  if c == '_' then true
  else if first then isLetter c
  else isLetterOrNumeral c || ['.', '[', ']'].contains c

/-- A new group name up to its closing angle bracket. -/
def groupName : Reading Unit := do
  let s ← rest
  let name := s.takeWhile (· != '>')
  let valid := match name with
    | [] => false
    | c :: more => isNameChar true c && more.all (isNameChar false)
  if !valid || (← get).names.contains name then failure
  goOn (s.drop name.length)
  expect '>'
  modify fun state => { state with names := name :: state.names }

/-- What an opening parenthesis starts. -/
inductive Opening where
  /-- A group with a number. -/
  | numbered (index : Nat)
  /-- A group without one, with the flags inside it. -/
  | plain (inside : Flags)
  /-- A place where flags are set for what follows. -/
  | setting (flags : Flags)

/-- The opening of the next group with a number. -/
def numberedOpening : Reading Opening := do
  modify fun state => { state with groups := state.groups + 1 }
  return .numbered (← get).groups

/-- What the opening parenthesis at the start of the text opens. -/
def groupOpening : Reading Opening := do
  goOnSkipping ((← rest).drop 1)
  match ← rest with
  | '?' :: 'P' :: '<' :: more =>
    goOn more
    let opening ← numberedOpening
    groupName
    return opening
  | '?' :: '<' :: c :: more =>
    if c == '=' || c == '!' then failure
    goOn (c :: more)
    let opening ← numberedOpening
    groupName
    return opening
  | '?' :: more =>
    let letters := more.takeWhile fun c => c != ':' && c != ')'
    let inside ← setFlags? true (← flags) letters
    match more.drop letters.length with
    | ':' :: after =>
      goOn after
      return .plain inside
    | ')' :: after =>
      if letters.isEmpty then failure
      goOn after
      return .setting inside
    | _ => failure
  | _ => numberedOpening

mutual

/-- A group, or a place where flags are set, from its opening parenthesis on. -/
def group : Nat → Reading Item
  | 0 => failure
  | fuel + 1 => do
    let outside ← flags
    match ← groupOpening with
    | .setting flags =>
      modify fun state => { state with flags := flags }
      return { node := .empty, depth := 0, repeatable := false }
    | .plain inside =>
      modify fun state => { state with flags := inside }
      groupBody fuel outside id
    | .numbered index => groupBody fuel outside (.group index)

/-- What stands in a group up to its closing parenthesis. -/
def groupBody : Nat → Flags → (Node → Node) → Reading Item
  | 0, _, _ => failure
  | fuel + 1, outside, wrap => do
    let item ← alternatives fuel [] []
    expect ')'
    modify fun state => { state with flags := outside }
    return { item with node := wrap item.node, depth := item.depth + 1 }

/-- Alternatives up to the end of the group or of the text. The parts of the present alternative and
the alternatives before it are given, the last one first. -/
def alternatives : Nat → List Item → List Item → Reading Item
  | 0, _, _ => failure
  | fuel + 1, items, before => do
    skip
    match ← rest with
    | [] => return .choice (.sequence items :: before)
    | c :: more =>
      if c == ')' then return .choice (.sequence items :: before)
      else if c == '|' then
        goOn more
        alternatives fuel [] (.sequence items :: before)
      else if c == '(' then
        let item ← group fuel
        alternatives fuel (item :: items) before
      else if c == '[' then
        let item ← bracket fuel
        alternatives fuel ({ node := .ofSet item.chars, depth := item.depth } :: items) before
      else if ['?', '*', '+', '\x7b'].contains c then
        let (item, others) ← repeated items
        let ((min, max), greedy) ← repetition
        let item := { node := item.node.repeated min max greedy, depth := item.depth + 1 }
        alternatives fuel (item :: others) before
      else
        let item ← single
        alternatives fuel (item :: items) before

end

end Reading

/-- How deep groups, repetitions, sequences, alternatives and brackets may nest. -/
def depthLimit : Nat :=
  250

/-- The pattern that a text writes. -/
def read? (text : String) : Option Node := do
  let s := text.toList
  let (item, state) ← (Reading.alternatives (3 * s.length + 2) [] []).run { rest := s }
  if state.rest.isEmpty && item.depth ≤ depthLimit then some item.node else none

end Autograder.Pattern
