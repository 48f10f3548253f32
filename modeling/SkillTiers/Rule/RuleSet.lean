/-
# Compiled rule sets

A rule set is compiled once and then classifies. The first active rule of each
level counts; levels are tried from the highest tier down, and the lowest tier is
the answer when none matches. Of several rules with one id the last can be looked
up.
-/

import SkillTiers.Rule.Version

namespace SkillTiers

/-- The rule that counts for a level, compiled. -/
structure ChosenRule where
  tier : Tier
  rule : Rule
  expression : Expression

/-- A compiled rule set. -/
structure RuleSet where
  /-- The rules, each id once. -/
  rules : List Rule
  /-- The rules that count, each level once, in the order of their first rules. -/
  chosen : List ChosenRule
  /-- The version of the rules that count. -/
  version : String

namespace RuleSet

/-- The rule set without rules. -/
def empty : RuleSet :=
  ⟨[], [], Rule.emptyVersion⟩

/-- The rules with each id once: in the place of its first rule, its last rule. -/
def byId (rules : List Rule) : List Rule :=
  rules.foldl (fun merged rule =>
    if merged.any (·.id == rule.id) then
      merged.map fun other => if other.id == rule.id then rule else other
    else merged ++ [rule]) []

/-- The first active rule of each level, with its tier. -/
def firstOfLevels (rules : List Rule) : Outcome (List (Tier × Rule)) := do
  let tiered ← (rules.filter (·.isActive)).mapM fun rule => do return (← rule.tier, rule)
  return tiered.foldl (fun first item =>
    if first.any (·.1 == item.1) then first else first ++ [item]) []

/-- The compiled rule set of a list of rules. -/
def build (rules : List Rule) : Outcome RuleSet := do
  let first ← firstOfLevels rules
  let chosen ← first.mapM fun (tier, rule) => do
    return ChosenRule.mk tier rule (← Expression.compile rule.conditions)
  return ⟨byId rules, chosen, ← Rule.versionOf first⟩

/-- The rule with an id. -/
def rule? (ruleSet : RuleSet) (id : String) : Option Rule :=
  ruleSet.rules.find? (·.id == id)

/-- The rule that counts for a tier. -/
def chosenFor? (ruleSet : RuleSet) (tier : Tier) : Option ChosenRule :=
  ruleSet.chosen.find? (·.tier == tier)

/-- Whether the rule that counts for a tier holds. -/
def reaches (ruleSet : RuleSet) (metrics : SkillMetrics) (tier : Tier) : Outcome Bool :=
  match ruleSet.chosenFor? tier with
  | some chosen => chosen.expression.evaluate metrics
  | none => .ok false

/-- The first of the tiers whose rule holds; the lowest tier when none does. -/
def firstReached (ruleSet : RuleSet) (metrics : SkillMetrics) : List Tier → Outcome Tier
  | [] => .ok .beginner
  | tier :: rest => do
    if ← ruleSet.reaches metrics tier then return tier
    else firstReached ruleSet metrics rest

/-- The tier of metrics. -/
def classify (ruleSet : RuleSet) (metrics : SkillMetrics) : Outcome Tier :=
  ruleSet.firstReached metrics Tier.priority

end RuleSet

/-- The tier of counts under a list of rules and the policy with this name. -/
def classifyCounts (rules : List Rule) (policy : String) (counts : Counts) : Outcome Tier := do
  let metrics ← counts.metricsUnderName policy
  (← RuleSet.build rules).classify metrics

end SkillTiers
