import Autograder.Pattern.AgeTable
import Autograder.Pattern.BreakTable
import Autograder.Pattern.CategoryTable
import Autograder.Pattern.CharSet
import Autograder.Pattern.PropertyTable
import Autograder.Pattern.ScriptExtensionTable
import Autograder.Pattern.ScriptTable

/-!
# Properties of characters

A pattern may name a property of characters: a binary property, a general category or a script, or a
property with one of its values. Names are compared without regard to case, blanks, hyphens and
underscores, and a leading `is` is dropped.
-/

namespace Autograder.Pattern

open Autograder.Text

/-- The name without blanks, hyphens, underscores and characters beyond ASCII, in lowercase and
without a leading `is`. The one name that would lose its meaning, `isc`, stays. -/
def looseName (name : List Char) : String :=
  let plain (s : List Char) : List Char :=
    (s.filter fun c => c.toNat < 128 && !([' ', '_', '-'].contains c)).map Char.toLower
  match name with
  | a :: b :: rest =>
    if a.toLower == 'i' && b.toLower == 's' then
      if plain rest == ['c'] then "isc" else String.ofList (plain rest)
    else String.ofList (plain name)
  | _ => String.ofList (plain name)

/-- A table of sets by their names. -/
abbrev SetTable := List (List String × List String)

def listed? (table : SetTable) (name : String) : Option CharSet :=
  (table.find? fun (names, _) => names.contains name).map fun (_, rows) =>
    .ofRanges (decodeRanges rows)

/-- Groups of general categories, by the names of the group. -/
def categoryGroups : List (List String × List String) :=
  [(["c", "other"], ["cc", "cf", "cn", "co"]),
   (["l", "letter"], ["ll", "lm", "lo", "lt", "lu"]),
   (["lc", "casedletter"], ["ll", "lt", "lu"]),
   (["m", "mark", "combiningmark"], ["mc", "me", "mn"]),
   (["n", "number"], ["nd", "nl", "no"]),
   (["p", "punctuation", "punct"], ["pc", "pd", "pe", "pf", "pi", "po", "ps"]),
   (["s", "symbol"], ["sc", "sk", "sm", "so"]),
   (["z", "separator"], ["zl", "zp", "zs"])]

/-- The characters of a general category or of a group of them. The group of the characters that
are no text goes on over the surrogates. -/
def category? (name : String) : Option CharSet :=
  if name == "any" then some (.range 0 lastCodePoint)
  else if name == "ascii" then some (.range 0 0x7F)
  else if name == "assigned" then (listed? categoryTable "cn").map CharSet.compl
  else match categoryGroups.find? fun (names, _) => names.contains name with
    | some (_, members) =>
      let sets := members.filterMap (listed? categoryTable)
      some (.ofList (if members.contains "co" then .range 0xD800 0xDFFF :: sets else sets))
    | none => listed? categoryTable name

/-- The characters that a version of Unicode has, those of the versions before it included. -/
def age? (name : String) : Option CharSet :=
  let newer := ageTable.dropWhile fun (names, _) => !names.contains name
  match newer with
  | [] => none
  | _ :: later =>
    let known := ageTable.take (ageTable.length - later.length)
    some (.ofRanges (known.flatMap fun (_, rows) => decodeRanges rows))

/-- The properties that take a value, by their names. -/
def valuedProperties : List (List String × (String → Option CharSet)) :=
  [(["gc", "generalcategory"], category?),
   (["sc", "script"], listed? scriptTable),
   (["scx", "scriptextensions"], listed? scriptExtensionTable),
   (["age"], age?),
   (["gcb", "graphemeclusterbreak"], listed? clusterBreakTable),
   (["wb", "wordbreak"], listed? wordBreakTable),
   (["sb", "sentencebreak"], listed? sentenceBreakTable)]

/-- The characters that have the named property. Three names stand for categories and scripts
although they also abbreviate properties. -/
def property? (name : List Char) : Option CharSet :=
  let name := looseName name
  let binary := if ["cf", "sc", "lc"].contains name then none else listed? propertyTable name
  (binary.or (category? name)).or (listed? scriptTable name)

/-- The characters for which the named property has a value. -/
def propertyValue? (name value : List Char) : Option CharSet := do
  let (_, lookup) ← valuedProperties.find? fun (names, _) => names.contains (looseName name)
  lookup (looseName value)

end Autograder.Pattern
