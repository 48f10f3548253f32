/-
# Rule set versions

The version of a rule set is a digest of its canonical text: the ids, levels and
stored conditions of its rules, in order of their levels, written as JSON with
sorted keys. Where no such text can be made, there is no version. No rules at all
have a version of their own.
-/

import SkillTiers.Digest.Sha256
import SkillTiers.Json.Room
import SkillTiers.Json.Writer
import SkillTiers.Rule.Basic

namespace SkillTiers

namespace Rule

/-- What the canonical text says about a rule. -/
def versioned (rule : Rule) (tier : Tier) : Json :=
  .object [
    ("id", .string rule.id),
    ("level", .string tier.name),
    ("conditions", rule.storedConditions)]

/-- What the canonical text says about rules with their tiers. -/
def canonical (rules : List (Tier × Rule)) : Json :=
  let ordered := sortBy (fun a b => decide (a.1.name ≤ b.1.name)) rules
  (Json.array (ordered.map fun (tier, rule) => rule.versioned tier)).sortKeys

/-- The canonical text of rules with their tiers. -/
def canonicalText (rules : List (Tier × Rule)) : List Char :=
  (canonical rules).write

/-- How many conditions lie in one another in the rule. -/
def nesting (rule : Rule) : Nat :=
  StoredCondition.nestingOfAll (Condition.allStored rule.conditions)

/-- Refuses rules of which no canonical text can be made. -/
def checkCanonical (rules : List (Tier × Rule)) : Outcome Unit :=
  if rules.any fun item => decide (StoredCondition.maxNesting < item.2.nesting) then
    .error .tooNested
  else
    (canonical rules).checkText

/-- The version of an empty rule set. -/
def emptyVersion : String :=
  "empty"

/-- The digest of a canonical text, as far as a version shows it. -/
def digest (text : List Char) : String :=
  String.ofList ((Sha256.hexDigest (text.map fun c => UInt8.ofNat c.toNat)).take 16)

/-- The version of rules with their tiers. -/
def versionOf (rules : List (Tier × Rule)) : Outcome String :=
  if rules.isEmpty then .ok emptyVersion
  else do
    checkCanonical rules
    return digest (canonicalText rules)

/-- The version of rules. -/
def version (rules : List Rule) : Outcome String := do
  versionOf (← rules.mapM fun rule => do return (← rule.tier, rule))

end Rule

end SkillTiers
