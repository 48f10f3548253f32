/-
# The height of JSON values

The height of a value is how many values lie in one another there, itself and the
innermost one included. A value of great height is not put into an answer.
-/

import SkillTiers.Json.Basic

namespace SkillTiers

namespace Json

mutual

/-- How many values lie in one another, this one included. -/
def height : Json → Nat
  | .array items => heightOfItems items + 1
  | .object fields => heightOfFields fields + 1
  | _ => 1

/-- The greatest height of an item, zero if there is none. -/
def heightOfItems : List Json → Nat
  | [] => 0
  | item :: rest => max (height item) (heightOfItems rest)

/-- The greatest height of the value of a field, zero if there is none. -/
def heightOfFields : List (String × Json) → Nat
  | [] => 0
  | (_, value) :: rest => max (height value) (heightOfFields rest)

end

end Json

end SkillTiers
