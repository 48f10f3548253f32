/-
# Comparisons

A condition compiles to a comparison of an operand with an operand or with a
threshold. Whatever cannot be a threshold becomes the undefined number, and an
operator that is not one of the five never holds, so a rule with a mistake in it
does not match.
-/

import SkillTiers.Condition.Basic
import SkillTiers.Condition.Operand
import SkillTiers.Number.Layout
import SkillTiers.Number.Numeral

namespace SkillTiers

/-- The relations that a condition can ask for. -/
inductive Relation where
  | atLeast
  | above
  | atMost
  | below
  | equal
deriving DecidableEq, Repr

namespace Relation

/-- All relations. -/
def all : List Relation :=
  [atLeast, above, atMost, below, equal]

/-- The sign of a relation. -/
def sign : Relation → String
  | .atLeast => ">="
  | .above => ">"
  | .atMost => "<="
  | .below => "<"
  | .equal => "="

/-- The relation with exactly this sign. -/
def ofSign? (text : Option String) : Option Relation :=
  all.find? fun relation => text == some relation.sign

/-- Whether two numbers stand in the relation. -/
def holds : Relation → Number → Number → Bool
  | .atLeast, x, y => y.le x
  | .above, x, y => y.lt x
  | .atMost, x, y => x.le y
  | .below, x, y => x.lt y
  | .equal, x, y => x.same y

end Relation

/-- The constant on the right of a comparison. -/
inductive Threshold where
  /-- No constant is given; it counts as the integer zero. -/
  | absent
  /-- A constant as a double. -/
  | given (value : Double)
deriving DecidableEq

namespace Threshold

/-- The threshold that a stored value gives. A text is read as a number; what is
not a number is undefined. -/
def ofJson : Json → Outcome Threshold
  | .null => .ok .absent
  | .number value => do return .given (← Outcome.ofArithmetic value.toDouble)
  | .string text => .ok (.given ((Double.parse? text).getD .nan))
  | _ => .ok (.given .nan)

/-- The number to compare with. -/
def value : Threshold → Number
  | .absent => 0
  | .given value => .float value

/-- The threshold in a sentence. -/
def text : Threshold → String
  | .absent => Double.zero.generalText
  | .given value => value.generalText

end Threshold

/-- The right side of a comparison. -/
inductive RightSide where
  | metric (operand : Operand)
  | constant (threshold : Threshold)
deriving DecidableEq

namespace RightSide

/-- The number to compare with. -/
def value (metrics : SkillMetrics) : RightSide → Outcome Number
  | .metric operand => operand.value metrics
  | .constant threshold => .ok threshold.value

/-- The right side as text. -/
def text : RightSide → String
  | .metric operand => operand.text
  | .constant threshold => threshold.text

end RightSide

/-- A compiled condition without its sub-conditions. -/
structure Comparison where
  left : Operand
  operator : Option String
  right : RightSide
deriving DecidableEq

namespace Comparison

/-- The right side of a condition: the other metric, a single name, if there is
one, else the threshold. -/
def rightSide (condition : Condition) : Outcome RightSide :=
  match condition.otherMetric? with
  | some name => .ok (.metric (.single name))
  | none => do return .constant (← Threshold.ofJson condition.value)

section RightSide

variable {condition : Condition}

theorem rightSide_of_metric {name : String} (hother : condition.otherMetric? = some name) :
    rightSide condition = .ok (.metric (.single name)) := by
  rw [rightSide, hother]

theorem rightSide_of_threshold (hother : condition.otherMetric? = none) :
    rightSide condition = do return .constant (← Threshold.ofJson condition.value) := by
  rw [rightSide, hother]

/-- A right side is the other metric, or the threshold of a condition that names none. -/
theorem rightSide_ok {right : RightSide} (hright : rightSide condition = .ok right) :
    (∃ name, condition.otherMetric? = some name ∧ right = .metric (.single name)) ∨
      (condition.otherMetric? = none ∧ ∃ threshold,
        Threshold.ofJson condition.value = .ok threshold ∧ right = .constant threshold) := by
  cases hother : condition.otherMetric? with
  | some name =>
      rw [rightSide_of_metric hother] at hright
      exact .inl ⟨name, rfl, (Except.ok.inj hright).symm⟩
  | none =>
      rw [rightSide_of_threshold hother] at hright
      cases hthreshold : Threshold.ofJson condition.value with
      | error failure =>
          rw [hthreshold] at hright
          cases hright
      | ok threshold =>
          rw [hthreshold] at hright
          exact .inr ⟨rfl, threshold, rfl, (Except.ok.inj hright).symm⟩

end RightSide

/-- The comparison that a condition makes itself. -/
def ofCondition (condition : Condition) : Outcome Comparison := do
  return {
    left := .parse (condition.metric.getD "")
    operator := condition.operator
    right := ← rightSide condition }

/-- The relation that the comparison asks for. -/
def relation? (comparison : Comparison) : Option Relation :=
  Relation.ofSign? comparison.operator

/-- Whether the comparison holds. The sides are worked out only for a relation
that is known. -/
def evaluate (metrics : SkillMetrics) (comparison : Comparison) : Outcome Bool :=
  match comparison.relation? with
  | none => .ok false
  | some relation => do
    let left ← comparison.left.value metrics
    let right ← comparison.right.value metrics
    return relation.holds left right

/-- The comparison as text. -/
def text (comparison : Comparison) : String :=
  comparison.left.text ++ " " ++ comparison.operator.getD "None" ++ " "
    ++ comparison.right.text

end Comparison

/-- Whether a condition's own comparison holds, its sub-conditions aside. -/
def Condition.evaluate (metrics : SkillMetrics) (condition : Condition) : Outcome Bool := do
  (← Comparison.ofCondition condition).evaluate metrics

end SkillTiers
