/-
# The stored shape of conditions

A condition is stored as a JSON object. Read as such, it has in each field what stands
there, whatever kind of value that is. Writing leaves out what counts as nothing, except
for the metric and the operator, which are always written, and for the threshold, which
is left out only where it is null. Reading accepts objects with fields missing; the
stored sub-conditions must be a list of objects, unless they are missing or count as
nothing. Either goes only so deep: `room` is how many conditions in one another are read
or written.

A condition that takes part in a rule has texts where a stored one may have any value.
A stored condition with another value there, null apart, is refused for a rule.
-/

import SkillTiers.Condition.Basic
import SkillTiers.Failure
import SkillTiers.Json.Shown

namespace SkillTiers

/-- One comparison of a level rule, as it is stored. -/
structure StoredCondition where
  metric : Json
  operator : Json
  /-- The threshold; null where there is none. -/
  value : Json
  metric2 : Json
  combineWith : Json
  subConditions : List StoredCondition
  note : Json

namespace StoredCondition

open Json

mutual

/-- How many conditions lie in one another, this one included. -/
def nesting : StoredCondition → Nat
  | ⟨_, _, _, _, _, subConditions, _⟩ => nestingOfAll subConditions + 1

/-- The greatest nesting of a condition, zero if there is none. -/
def nestingOfAll : List StoredCondition → Nat
  | [] => 0
  | condition :: rest => max (nesting condition) (nestingOfAll rest)

end

mutual

/-- The condition as an object. -/
def toJson : StoredCondition → Json
  | ⟨metric, operator, value, metric2, combineWith, subConditions, note⟩ =>
    .object (
      [("metric", metric), ("operator", operator)]
      ++ present "value" (if value.isNull then none else some value)
      ++ present "metric2" metric2.something?
      ++ present "combineWith" combineWith.something?
      ++ present "subConditions"
        (if subConditions.isEmpty then none else some (.array (allToJson subConditions)))
      ++ present "note" note.something?)

/-- Conditions as objects. -/
def allToJson : List StoredCondition → List Json
  | [] => []
  | condition :: rest => toJson condition :: allToJson rest

end

/-- The condition as an object, if there is room for it. -/
def write (room : Nat) (condition : StoredCondition) : Outcome Json :=
  if condition.nesting ≤ room then .ok condition.toJson else .error .tooNested

/-- The failure of reading the first element of a value that is no list of objects. -/
def elementFailure (room : Nat) : Json → Failure
  | .object _ | .string _ => if room = 0 then .tooNested else .notAnObject "str"
  | value => .notAList value.kindName

/-- The value under a key, null where the key is missing. -/
def fieldOrNull (fields : List (String × Json)) (key : String) : Json :=
  (lookup fields key).getD .null

/-- The value under a key, null also where it counts as nothing. -/
def somethingOrNull (fields : List (String × Json)) (key : String) : Json :=
  ((lookup fields key).bind something?).getD .null

mutual

/-- The condition that a value is, if there is room for it. -/
def read (room : Nat) (stored : Json) : Outcome StoredCondition :=
  match stored with
  | .object fields =>
    if room = 0 then .error .tooNested
    else do
      let subConditions ← readSubConditions (room - 1) fields
      return {
        metric := (lookup fields "metric").getD (.string "")
        operator := (lookup fields "operator").getD (.string "")
        value := fieldOrNull fields "value"
        metric2 := somethingOrNull fields "metric2"
        combineWith := somethingOrNull fields "combineWith"
        subConditions := subConditions
        note := fieldOrNull fields "note" }
  | value => .error (if room = 0 then .tooNested else .notAnObject value.kindName)

/-- The sub-conditions among the fields of a condition. -/
def readSubConditions (room : Nat) : List (String × Json) → Outcome (List StoredCondition)
  | [] => .ok []
  | (key, value) :: rest =>
    if key == "subConditions" then readList room value else readSubConditions room rest

/-- The conditions that a value is a list of. -/
def readList (room : Nat) (stored : Json) : Outcome (List StoredCondition) :=
  match stored with
  | .array items => readItems room items
  | value => if value.isNothing then .ok [] else .error (elementFailure room value)

/-- The conditions that the items of a list are. -/
def readItems (room : Nat) : List Json → Outcome (List StoredCondition)
  | [] => .ok []
  | item :: rest => do
    let condition ← read room item
    return condition :: (← readItems room rest)

end

/-- How many conditions in one another are read and written. -/
def maxNesting : Nat :=
  487

/-- The text that a value is, none where it is null. -/
def textOf : Json → Outcome (Option String)
  | .null => .ok none
  | .string text => .ok (some text)
  | value => .error (.notSearchable value.kindName)

mutual

/-- The condition as it takes part in a rule. -/
def texts : StoredCondition → Outcome Condition
  | ⟨metric, operator, value, metric2, combineWith, subConditions, note⟩ => do
    return {
      metric := ← textOf metric
      operator := ← textOf operator
      value := value
      metric2 := ← textOf metric2
      combineWith := ← textOf combineWith
      subConditions := ← allTexts subConditions
      note := ← textOf note }

/-- Conditions as they take part in a rule. -/
def allTexts : List StoredCondition → Outcome (List Condition)
  | [] => .ok []
  | condition :: rest => do
    let first ← texts condition
    return first :: (← allTexts rest)

end

end StoredCondition

namespace Condition

mutual

/-- The condition as it is stored. -/
def stored : Condition → StoredCondition
  | ⟨metric, operator, value, metric2, combineWith, subConditions, note⟩ =>
    ⟨.ofString? metric, .ofString? operator, value, .ofString? metric2, .ofString? combineWith,
      allStored subConditions, .ofString? note⟩

/-- Conditions as they are stored. -/
def allStored : List Condition → List StoredCondition
  | [] => []
  | condition :: rest => stored condition :: allStored rest

end

/-- The stored shape of a condition. -/
def toStored (condition : Condition) : Json :=
  condition.stored.toJson

/-- The stored shapes of conditions. -/
def allToStored (conditions : List Condition) : List Json :=
  conditions.map toStored

/-- The condition that a value stores, for a rule, if there is room for it. -/
def ofStoredWithin (room : Nat) (value : Json) : Outcome Condition := do
  (← StoredCondition.read room value).texts

/-- The condition that a value stores, for a rule. -/
def ofStored (value : Json) : Outcome Condition :=
  ofStoredWithin StoredCondition.maxNesting value

/-- The conditions that a value stores as a list, for a rule. -/
def ofStoredList (value : Json) : Outcome (List Condition) := do
  StoredCondition.allTexts (← StoredCondition.readList StoredCondition.maxNesting value)

end Condition

end SkillTiers
