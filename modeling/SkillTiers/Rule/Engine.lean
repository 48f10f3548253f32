/-
# The engine

An engine holds a compiled rule set and a policy for empty totals. Loading
replaces the whole rule set or, when the rules do not compile, nothing.
-/

import SkillTiers.Rule.RuleSet

namespace SkillTiers

/-- A rule set in use, with the policy under which it classifies. -/
structure Engine where
  policy : ZeroTotalPolicy
  ruleSet : RuleSet

namespace Engine

/-- The engine without rules. -/
def empty (policy : ZeroTotalPolicy) : Engine :=
  ⟨policy, .empty⟩

/-- The engine with these rules in place of its own. -/
def load (engine : Engine) (rules : List Rule) : Outcome Engine := do
  return { engine with ruleSet := ← RuleSet.build rules }

/-- The engine without its rules. -/
def clear (engine : Engine) : Engine :=
  { engine with ruleSet := .empty }

/-- The engine that is made with rules, if there are any. -/
def ofRules (policy : ZeroTotalPolicy) (rules : List Rule) : Outcome Engine :=
  if rules.isEmpty then .ok (.empty policy) else (Engine.empty policy).load rules

/-- The version of the rules in use. -/
def version (engine : Engine) : String :=
  engine.ruleSet.version

/-- A call that changes the rules in use. -/
inductive Call where
  | load (rules : List Rule)
  | clear

/-- The engine after a call, and what the call answers: loading answers the version of the
rules that are in use then. -/
def call (engine : Engine) : Call → Engine × Outcome (Option String)
  | .load rules =>
    match engine.load rules with
    | .ok loaded => (loaded, .ok (some loaded.version))
    | .error failure => (engine, .error failure)
  | .clear => (engine.clear, .ok none)

/-- The metrics of counts under the engine's policy. -/
def metrics (engine : Engine) (counts : Counts) : Outcome SkillMetrics :=
  counts.metrics engine.policy

/-- The tier of counts. -/
def classify (engine : Engine) (counts : Counts) : Outcome Tier := do
  engine.ruleSet.classify (← engine.metrics counts)

/-- The tier of a skill, from the ratings of its subskills. -/
def classifySkill (engine : Engine) (ratings : List (Option Rating))
    (total : Option Number) : Outcome Tier :=
  engine.classify (.ofRatings ratings total)

/-- The tier of a category, from the tiers of its skills. -/
def classifyCategory (engine : Engine) (tiers : List (Option Tier)) : Outcome Tier :=
  engine.classify (.ofTiers tiers)

/-- What the engine says about a rule that counts. -/
def levelStats (chosen : ChosenRule) : Json :=
  .object [
    ("rule_id", .string chosen.rule.id),
    ("conditions", .ofInt chosen.rule.conditions.length),
    ("expression", .string chosen.expression.text)]

/-- What the engine says about itself. -/
def stats (engine : Engine) : Json :=
  .object [
    ("total_rules", .ofInt engine.ruleSet.rules.length),
    ("active_rules", .ofInt (engine.ruleSet.rules.filter (·.isActive)).length),
    ("levels", .object (engine.ruleSet.chosen.map fun chosen =>
      (chosen.tier.name, levelStats chosen))),
    ("version", .string engine.version),
    ("zero_total_policy", .string engine.policy.name)]

end Engine

end SkillTiers
