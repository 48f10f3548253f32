/-
# JSON without undefined numbers

An answer to a request cannot hold a number that is undefined or without bound.
Where one can be expected null stands in its place; elsewhere there is no answer.
-/

import SkillTiers.Json.Basic

namespace SkillTiers

namespace Json

/-- The double as a value, null unless it is finite. -/
def ofFinite (value : Double) : Json :=
  if value.isFinite then .number (.float value) else .null

mutual

/-- The value with null for every double that is not finite. -/
def onlyFinite : Json → Json
  | .number (.float value) => ofFinite value
  | .array items => .array (onlyFiniteItems items)
  | .object fields => .object (onlyFiniteFields fields)
  | value => value

/-- `onlyFinite` on each item. -/
def onlyFiniteItems : List Json → List Json
  | [] => []
  | item :: rest => onlyFinite item :: onlyFiniteItems rest

/-- `onlyFinite` on the value of each field. -/
def onlyFiniteFields : List (String × Json) → List (String × Json)
  | [] => []
  | (key, value) :: rest => (key, onlyFinite value) :: onlyFiniteFields rest

end

mutual

/-- Whether every double in the value is finite. -/
def isFinite : Json → Bool
  | .number (.float value) => value.isFinite
  | .array items => areFinite items
  | .object fields => fieldsAreFinite fields
  | _ => true

/-- Whether every double in each item is finite. -/
def areFinite : List Json → Bool
  | [] => true
  | item :: rest => isFinite item && areFinite rest

/-- Whether every double in the value of each field is finite. -/
def fieldsAreFinite : List (String × Json) → Bool
  | [] => true
  | (_, value) :: rest => isFinite value && fieldsAreFinite rest

end

end Json

end SkillTiers
