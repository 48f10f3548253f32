/-
# JSON values

A JSON value keeps integers apart from doubles, admits the three doubles that
are not finite, and keeps the fields of an object in order. Setting a field that
is there already changes it in place.
-/

import SkillTiers.Number.Basic
import SkillTiers.Sorting

namespace SkillTiers

/-- A JSON value. -/
inductive Json where
  | null
  | bool (value : Bool)
  | number (value : Number)
  | string (value : String)
  | array (items : List Json)
  | object (fields : List (String × Json))

namespace Json

/-- The first value under a key. -/
def lookup (fields : List (String × Json)) (key : String) : Option Json :=
  (fields.find? (·.1 == key)).map (·.2)

/-- The fields with a key set: in place where the key is there, else at the end. -/
def setField (fields : List (String × Json)) (key : String) (value : Json) :
    List (String × Json) :=
  if fields.any (·.1 == key) then
    fields.map fun field => if field.1 == key then (key, value) else field
  else
    fields ++ [(key, value)]

/-- The fields with each key once, where it came first and with the value that
came last. -/
def mergeFields (fields : List (String × Json)) : List (String × Json) :=
  fields.foldl (fun merged field => setField merged field.1 field.2) []

/-- A field that may be missing. -/
def present (key : String) (value : Option Json) : List (String × Json) :=
  (value.map fun value => (key, value)).toList

/-- The value under a key of an object. -/
def field? (value : Json) (key : String) : Option Json :=
  match value with
  | .object fields => lookup fields key
  | _ => none

/-- Whether the value is null. -/
def isNull : Json → Bool
  | .null => true
  | _ => false

/-- Whether the value counts as nothing: null, false, zero, or empty. -/
def isNothing : Json → Bool
  | .null => true
  | .bool value => !value
  | .number value => value.isZero
  | .string text => text.isEmpty
  | .array items => items.isEmpty
  | .object fields => fields.isEmpty

/-- The value, unless it counts as nothing. -/
def something? (value : Json) : Option Json :=
  if value.isNothing then none else some value

/-- The text, if the value is one. -/
def string? : Json → Option String
  | .string text => some text
  | _ => none

/-- The integer as a value. -/
def ofInt (value : Int) : Json :=
  .number (.int value)

/-- The text as a value, null where there is none. -/
def ofString? : Option String → Json
  | some text => .string text
  | none => .null

mutual

/-- The value with the fields of every object in order of their keys. -/
def sortKeys : Json → Json
  | .array items => .array (sortItems items)
  | .object fields =>
    .object (sortBy (fun a b => decide (a.1 ≤ b.1)) (sortFields fields))
  | value => value

/-- `sortKeys` on each item. -/
def sortItems : List Json → List Json
  | [] => []
  | item :: rest => sortKeys item :: sortItems rest

/-- `sortKeys` on the value of each field. -/
def sortFields : List (String × Json) → List (String × Json)
  | [] => []
  | (key, value) :: rest => (key, sortKeys value) :: sortFields rest

end

end Json

end SkillTiers
