/-
# Issues of conditions

Evaluation is lenient: an unknown metric counts as zero and an unknown operator
never holds. An issue is a place where a condition leans on that, with a path to
it and a message. Conditions and their sub-conditions are inspected; anything
below the sub-conditions is an issue as a whole, since it has no effect.
-/

import SkillTiers.Condition.Expression
import SkillTiers.Json.Shown

namespace SkillTiers

/-- A mistake in a rule, and where it is. -/
structure Issue where
  path : String
  message : String
deriving DecidableEq

namespace Issue

/-- The issue as a JSON object. -/
def toJson (issue : Issue) : Json :=
  .object [("path", .string issue.path), ("message", .string issue.message)]

end Issue

namespace Condition

/-- One issue for each unknown term of an operand. -/
def termIssues (path : String) (operand : Operand) : List Issue :=
  operand.unknown.map fun term => ⟨path, "Unknown metric '" ++ term.text ++ "'"⟩

/-- The issue of an operator that is not one of the five. -/
def operatorIssues (path : String) (operator : Option String) : List Issue :=
  match Relation.ofSign? operator with
  | some _ => []
  | none => [⟨path, "Unknown operator '" ++ operator.getD "None" ++ "'"⟩]

/-- The issues of a right side: an unknown metric, or a threshold that is missing
or no number. -/
def rightIssues (path : String) (condition : Condition) : RightSide → List Issue
  | .metric operand => termIssues (path ++ ".metric2") operand
  | .constant .absent =>
    [⟨path ++ ".value", "Missing value; it will compare against 0"⟩]
  | .constant (.given value) =>
    if value.isNaN then
      [⟨path ++ ".value", "Value must be numeric, got " ++ condition.value.shown⟩]
    else []

/-- The issue of a link that is neither of the two. -/
def linkIssues (path : String) (condition : Condition) : List Issue :=
  match condition.link? with
  | none => []
  | some link =>
    if link = conjunction ∨ link = alternative then []
    else [⟨path, "combineWith must be AND or OR, got '" ++ link ++ "'"⟩]

/-- The issues of a condition itself. -/
def ownIssues (path : String) (condition : Condition) : Outcome (List Issue) := do
  let comparison ← Comparison.ofCondition condition
  return termIssues (path ++ ".metric") comparison.left
    ++ operatorIssues (path ++ ".operator") comparison.operator
    ++ rightIssues path condition comparison.right
    ++ linkIssues (path ++ ".combineWith") condition

/-- The path of an item of a list. -/
def itemPath (path : String) (index : Nat) : String :=
  path ++ "[" ++ toString index ++ "]"

/-- The issues of a sub-condition, sub-conditions of its own being one. -/
def subIssues (path : String) (sub : Condition) : Outcome (List Issue) := do
  let own ← sub.ownIssues path
  return own ++ (if sub.subConditions.isEmpty then []
    else [⟨path, "Nested sub-conditions are ignored"⟩])

/-- The issues of items, numbered on from `index`, one after the other. -/
def issuesFrom (inspect : String → Condition → Outcome (List Issue)) (path : String)
    (index : Nat) : List Condition → Outcome (List Issue)
  | [] => .ok []
  | condition :: rest => do
    let first ← inspect (itemPath path index) condition
    return first ++ (← issuesFrom inspect path (index + 1) rest)

/-- The issues of a condition and of its sub-conditions. -/
def deepIssues (path : String) (condition : Condition) : Outcome (List Issue) := do
  let own ← condition.ownIssues path
  return own
    ++ (← issuesFrom subIssues (path ++ ".subConditions") 0 condition.subConditions)

/-- The issues of a list of conditions. -/
def issues (path : String) (conditions : List Condition) : Outcome (List Issue) :=
  issuesFrom deepIssues path 0 conditions

end Condition

end SkillTiers
