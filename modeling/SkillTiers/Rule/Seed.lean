/-
# Seed rules

The rules that a store starts with: one for each tier, the highest first.
-/

import SkillTiers.Rule.Basic

namespace SkillTiers

namespace Seed

/-- A comparison with a whole number, linked to the next condition and with
sub-conditions. -/
private def compare (metric operator : String) (value : Int)
    (combineWith : Option String) (subConditions : List Condition) : Condition where
  metric := some metric
  operator := some operator
  value := .ofInt value
  metric2 := none
  combineWith := combineWith
  subConditions := subConditions
  note := none

/-- A sub-condition. -/
private def along (metric operator : String) (value : Int) : List Condition :=
  [compare metric operator value none []]

/-- The conditions of the seed rule for a tier. -/
def conditions : Tier → List Condition
  | .expert => [
      compare "high%" ">=" 30 "OR" [],
      compare "high%" ">=" 20 "AND" (along "medium%" "<=" 40)]
  | .intermediate => [
      compare "high%" ">=" 10 "AND" (along "medium%" ">=" 30),
      compare "medium%" ">=" 20 "AND" (along "low%" ">=" 40),
      compare "medium%" ">=" 50 "OR" [],
      compare "medium%" ">=" 30 "AND" (along "low%" ">=" 30),
      compare "medium%" ">=" 40 "AND" (along "high%" "<" 20),
      compare "high% + medium%" ">=" 50 "OR" []]
  | .beginner => [
      { compare "lowCount" ">=" 1 "AND" [] with
        note := "Applied when NOT Expert and NOT Intermediate" }]

/-- The id of the seed rule with this number. -/
def id (number : Nat) : String :=
  "seed-" ++ toString number

/-- The place of the seed rule for a tier among the rules shown. -/
def displayOrder : Tier → Int
  | .expert => 1
  | .intermediate => 2
  | .beginner => 3

/-- The seed rule for a tier, under this id. -/
def rule (id : String) (tier : Tier) : Rule where
  id := id
  level := tier.name
  conditions := conditions tier
  displayOrder := displayOrder tier
  isActive := true

/-- The seed rules, their ids numbered on from `first`. -/
def rules (first : Nat) : List Rule :=
  [rule (id first) .expert, rule (id (first + 1)) .intermediate,
    rule (id (first + 2)) .beginner]

end Seed

end SkillTiers
