/-
# Conditions

A condition compares a metric with a threshold or with a second metric, says how
it is linked to the condition after it, and may carry sub-conditions that must
hold along with it. Its texts are kept as they were written, so that a name that
means nothing today survives being loaded and saved; what they mean is settled
when the condition is compiled.
-/

import SkillTiers.Json.Basic
import SkillTiers.Text.Nonempty

namespace SkillTiers

/-- One comparison of a level rule, as written. -/
structure Condition where
  /-- The metric on the left, or a sum of metrics. -/
  metric : Option String
  /-- The comparison. -/
  operator : Option String
  /-- The threshold on the right; null where there is none. -/
  value : Json
  /-- The metric on the right, which takes the place of the threshold. -/
  metric2 : Option String
  /-- The link to the next condition. -/
  combineWith : Option String
  /-- What must hold along with the comparison. -/
  subConditions : List Condition
  /-- A remark without effect. -/
  note : Option String

namespace Condition

/-- The metric on the right, if one is named. -/
def otherMetric? (condition : Condition) : Option String :=
  nonempty? condition.metric2

/-- The link to the next condition, if one is named. -/
def link? (condition : Condition) : Option String :=
  nonempty? condition.combineWith

/-- The link after which the next condition is an alternative. -/
def alternative : String :=
  "OR"

/-- The link after which the next condition must hold too. -/
def conjunction : String :=
  "AND"

/-- Whether the condition ends its group: the next one is an alternative, or no
link is named. -/
def closesGroup (condition : Condition) : Bool :=
  condition.link? == none || condition.link? == some alternative

end Condition

end SkillTiers
