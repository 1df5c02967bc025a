import Autograder.Json.Numeral

/-!
# JSON values

The values of the JSON data format as they stand in a text: numbers as written, object fields in
order and with repetitions. A string is absent when its escapes name half of a surrogate pair on
its own; such a string may stand in a text, but nothing can be read from it.
-/

namespace Autograder

open Autograder.Number

inductive Json where
  | null
  | bool (value : Bool)
  | number (value : Numeral)
  | string (value : Option String)
  | array (items : List Json)
  | object (fields : List (Option String × Json))

namespace Json

def ofString (s : String) : Json :=
  .string (some s)

def ofNat (n : Nat) : Json :=
  .number (.ofNat n)

/-- A double; what is not a number is written as null. -/
def ofFloat (x : Float) : Json :=
  match value x with
  | .finite negative mantissa exponent => .number (.ofParts negative mantissa exponent)
  | _ => .null

/-- A list of values, each encoded. -/
def ofList {α : Type} (encode : α → Json) (items : List α) : Json :=
  .array (items.map encode)

/-- Null, or the encoded value. -/
def ofOption {α : Type} (encode : α → Json) : Option α → Json
  | none => .null
  | some a => encode a

def ofFields (fields : List (String × Json)) : Json :=
  .object (fields.map fun (name, value) => (some name, value))

/-- A field that is left out when there is no value. -/
def optionalField {α : Type} (name : String) (encode : α → Json) :
    Option α → List (String × Json)
  | none => []
  | some a => [(name, encode a)]

mutual

/-- How many arrays and objects are nested at most. -/
def depth : Json → Nat
  | .array items => depthOfItems items + 1
  | .object fields => depthOfFields fields + 1
  | _ => 0

def depthOfItems : List Json → Nat
  | [] => 0
  | item :: items => max item.depth (depthOfItems items)

def depthOfFields : List (Option String × Json) → Nat
  | [] => 0
  | (_, value) :: fields => max value.depth (depthOfFields fields)

end

mutual

/-- Whether every string can be read and every number is a double. -/
def isReadable : Json → Bool
  | .number n => n.toFloat?.isSome
  | .string s => s.isSome
  | .array items => itemsReadable items
  | .object fields => fieldsReadable fields
  | _ => true

def itemsReadable : List Json → Bool
  | [] => true
  | item :: items => item.isReadable && itemsReadable items

def fieldsReadable : List (Option String × Json) → Bool
  | [] => true
  | (name, value) :: fields => name.isSome && value.isReadable && fieldsReadable fields

end

end Json

end Autograder
