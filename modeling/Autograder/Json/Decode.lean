import Autograder.Json.Basic

/-!
# Decoding JSON values

Readers from JSON values to the values of the program. A record is written as an object, or as an
array of its fields in order; fields it does not know are ignored, and a known one may not repeat.
-/

namespace Autograder.Json

def string? : Json → Option String
  | .string s => s
  | _ => none

def bool? : Json → Option Bool
  | .bool b => some b
  | _ => none

/-- A natural number of at most `limit`. -/
def nat? (limit : Nat) : Json → Option Nat
  | .number n => n.toNat? limit
  | _ => none

def nat32? : Json → Option Nat :=
  nat? (Nat.pow 2 32 - 1)

def nat64? : Json → Option Nat :=
  nat? (Nat.pow 2 64 - 1)

def float? : Json → Option Float
  | .number n => n.toFloat?
  | _ => none

/-- A list of values, each decoded. -/
def list? {α : Type} (decode : Json → Option α) : Json → Option (List α)
  | .array items => items.mapM decode
  | _ => none

/-- A name out of a fixed set: a string, or an object whose only field has that name and is
null. -/
def tag? : Json → Option String
  | .string s => s
  | .object [(name, .null)] => name
  | _ => none

/-- The value of the only field that has one of the names. Absent fields are reported as such,
repeated ones refuse the record. -/
def lookup? (names : List String) (fields : List (Option String × Json)) : Option (Option Json) :=
  match fields.filter fun (name, _) => name.any names.contains with
  | [] => some none
  | [(_, value)] => some (some value)
  | _ => none

/-- The fields of a record in declared order, each given by the names it may have. -/
def record? (declared : List (List String)) : Json → Option (List (Option Json))
  | .object fields =>
    if fields.all fun (name, _) => name.isSome then declared.mapM (lookup? · fields) else none
  | .array items =>
    if items.length ≤ declared.length then
      some (items.map some ++ List.replicate (declared.length - items.length) none)
    else none
  | _ => none

/-- A field that must be there. -/
def required {α : Type} (decode : Json → Option α) (field : Option Json) : Option α :=
  field.bind decode

/-- A field that has a value when it is absent. -/
def withDefault {α : Type} (fallback : α) (decode : Json → Option α) :
    Option Json → Option α
  | none => some fallback
  | some value => decode value

/-- A field that may be absent or null. -/
def nullable {α : Type} (decode : Json → Option α) : Option Json → Option (Option α)
  | none => some none
  | some .null => some none
  | some value => (decode value).map some

end Autograder.Json
