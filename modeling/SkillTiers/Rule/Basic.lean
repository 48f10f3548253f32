/-
# Rules

A rule is the ordered list of conditions for reaching one level. Its level is
kept as text, so that a rule with a level that does not exist can be inspected
before it is refused. A level without an active rule is simply never reached.
-/

import SkillTiers.Condition.Issue
import SkillTiers.Condition.Stored

namespace SkillTiers

/-- A level rule. -/
structure Rule where
  id : String
  level : String
  conditions : List Condition
  displayOrder : Int
  isActive : Bool

/-- The tier that the level of a rule names. -/
def Tier.ofLevel (level : String) : Outcome Tier :=
  match Tier.ofName? level with
  | some tier => .ok tier
  | none => .error (.unknownTier level)

/-- Only known tiers are levels, and then under their names. -/
theorem Tier.ofLevel_ok {level : String} {tier : Tier} (htier : Tier.ofLevel level = .ok tier) :
    level = tier.name := by
  unfold Tier.ofLevel at htier
  cases hname : Tier.ofName? level with
  | none =>
      rw [hname] at htier
      cases htier
  | some other =>
      rw [hname] at htier
      cases htier
      have hfound := List.find?_some hname
      exact (beq_iff_eq.mp hfound).symm

@[simp] theorem Tier.ofLevel_name (tier : Tier) : Tier.ofLevel tier.name = .ok tier := by
  cases tier <;> rfl

namespace Rule

/-- The tier that the rule is for. -/
def tier (rule : Rule) : Outcome Tier :=
  Tier.ofLevel rule.level

/-- The conditions in their stored shape. -/
def storedConditions (rule : Rule) : Json :=
  .array (Condition.allToStored rule.conditions)

/-- The issues of a rule: those of its level, then those of its conditions, having
none being one for an active rule. -/
def issues (rule : Rule) : Outcome (List Issue) := do
  let level : List Issue :=
    match Tier.ofName? rule.level with
    | some _ => []
    | none => [⟨"level", "Unknown level '" ++ rule.level ++ "'"⟩]
  let empty : List Issue :=
    if rule.conditions.isEmpty && rule.isActive then
      [⟨"conditions", "Rule has no conditions and never matches"⟩]
    else []
  return level ++ empty ++ (← Condition.issues "conditions" rule.conditions)

/-- The issues of a rule before it is saved; under `strict` a rule with issues is
refused. -/
def check (strict : Bool) (rule : Rule) : Outcome (List Issue) := do
  let issues ← rule.issues
  if strict && !issues.isEmpty then
    .error (.service (.validation "Rule failed validation"
      [("issues", .array (issues.map Issue.toJson))]))
  else
    return issues

end Rule

end SkillTiers
