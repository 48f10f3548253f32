/-
# JSON for the outside

A field whose key begins in a certain way is meant for the inside. It is left out
wherever a value without a fixed form is sent out, however deep it lies.
-/

import SkillTiers.Json.Basic

namespace SkillTiers

namespace Json

/-- How the keys of fields for the inside begin. -/
def inwardStart : String :=
  "_sa"

/-- Whether a key is that of a field for the inside. -/
def isInward (key : String) : Bool :=
  inwardStart.toList.isPrefixOf key.toList

mutual

/-- The value without the fields for the inside. -/
def outward : Json → Json
  | .array items => .array (outwardItems items)
  | .object fields => .object (outwardFields fields)
  | value => value

/-- `outward` on each item. -/
def outwardItems : List Json → List Json
  | [] => []
  | item :: rest => outward item :: outwardItems rest

/-- The fields for the outside, with `outward` on the value of each. -/
def outwardFields : List (String × Json) → List (String × Json)
  | [] => []
  | (key, value) :: rest =>
    if isInward key then outwardFields rest else (key, outward value) :: outwardFields rest

end

end Json

end SkillTiers
