/-
# Level expressions

The ordered conditions of a level form an alternative of groups: the list is cut
behind every condition that closes its group, and behind the last one. A group
holds when all its conditions hold with all their sub-conditions; the level holds
when some group does, so a level without conditions never does. Nothing is worked
out beyond the point where the answer is settled.
-/

import SkillTiers.Condition.Comparison

namespace SkillTiers

namespace Condition

/-- The conditions cut into groups, in order. -/
def groups : List Condition → List (List Condition)
  | [] => []
  | condition :: rest =>
    if condition.closesGroup then
      [condition] :: groups rest
    else
      match groups rest with
      | [] => [[condition]]
      | group :: others => (condition :: group) :: others

end Condition

/-- The texts with a word between them. -/
def joinedBy (word : String) : List String → String
  | [] => ""
  | [text] => text
  | text :: rest => text ++ word ++ joinedBy word rest

/-- A comparison with what must hold along with it. -/
structure GroupedComparison where
  comparison : Comparison
  along : List Comparison
deriving DecidableEq

namespace GroupedComparison

/-- The comparison of a condition with those of its sub-conditions. What lies
below the sub-conditions has no effect. -/
def ofCondition (condition : Condition) : Outcome GroupedComparison := do
  return {
    comparison := ← Comparison.ofCondition condition
    along := ← condition.subConditions.mapM Comparison.ofCondition }

/-- Whether the comparison and all along with it hold. -/
def evaluate (metrics : SkillMetrics) (grouped : GroupedComparison) : Outcome Bool := do
  if ← grouped.comparison.evaluate metrics then
    grouped.along.allM (·.evaluate metrics)
  else
    return false

/-- The comparison as text, with those along with it in parentheses. -/
def text (grouped : GroupedComparison) : String :=
  if grouped.along.isEmpty then grouped.comparison.text
  else grouped.comparison.text ++ " AND (" ++ joinedBy " AND " (grouped.along.map (·.text))
    ++ ")"

end GroupedComparison

/-- Comparisons that must all hold. -/
structure AndGroup where
  members : List GroupedComparison
deriving DecidableEq

namespace AndGroup

/-- Whether all members hold. -/
def evaluate (metrics : SkillMetrics) (group : AndGroup) : Outcome Bool :=
  group.members.allM (·.evaluate metrics)

/-- The group as text. -/
def text (group : AndGroup) : String :=
  "[" ++ joinedBy " AND " (group.members.map (·.text)) ++ "]"

end AndGroup

/-- The compiled conditions of a level. -/
structure Expression where
  groups : List AndGroup
deriving DecidableEq

namespace Expression

/-- The expression of a level's conditions. -/
def compile (conditions : List Condition) : Outcome Expression := do
  let groups ← (Condition.groups conditions).mapM fun group => do
    return AndGroup.mk (← group.mapM GroupedComparison.ofCondition)
  return ⟨groups⟩

/-- Whether the expression has no groups. -/
def isEmpty (expression : Expression) : Bool :=
  expression.groups.isEmpty

/-- Whether some group holds. -/
def evaluate (metrics : SkillMetrics) (expression : Expression) : Outcome Bool :=
  expression.groups.anyM (·.evaluate metrics)

/-- Which groups hold. -/
def evaluateGroups (metrics : SkillMetrics) (expression : Expression) :
    Outcome (List Bool) :=
  expression.groups.mapM (·.evaluate metrics)

/-- The expression as text. -/
def text (expression : Expression) : String :=
  if expression.isEmpty then "<never>"
  else joinedBy " OR " (expression.groups.map (·.text))

end Expression

/-- Whether a level's conditions hold. -/
def evaluateLevel (metrics : SkillMetrics) (conditions : List Condition) : Outcome Bool := do
  (← Expression.compile conditions).evaluate metrics

end SkillTiers
