/-
# Counts and the metrics derived from them

A classification starts from how many ratings, or how many skills of a tier, fall
into each of three slots, and from a total. The metrics add the share of each
slot in the total as a percentage. With a total of zero there is no share: the
policy decides between an undefined percentage, which fails every comparison,
and zero.
-/

import SkillTiers.Failure
import SkillTiers.Tier

namespace SkillTiers

/-- The counts of the three slots and the total they are taken of. -/
structure Counts where
  high : Number
  medium : Number
  low : Number
  total : Number
deriving DecidableEq

/-- What a percentage is when the total is zero. -/
inductive ZeroTotalPolicy where
  /-- Undefined, a positive count included. -/
  | nan
  /-- Zero. -/
  | zero
deriving DecidableEq, Repr

namespace ZeroTotalPolicy

/-- The word for a policy. -/
def name : ZeroTotalPolicy → String
  | .nan => "nan"
  | .zero => "zero"

/-- The policy that a word names exactly. -/
def ofName (text : String) : Outcome ZeroTotalPolicy :=
  match [ZeroTotalPolicy.nan, .zero].find? (·.name == text) with
  | some policy => .ok policy
  | none => .error (.unknownPolicy text)

/-- The percentage of a total of zero. -/
def ofNothing : ZeroTotalPolicy → Double
  | .nan => .nan
  | .zero => .zero

end ZeroTotalPolicy

/-- The percentage that `count` is of `total`. The multiplication comes before
the only rounding, so a whole percentage of integers is exact. -/
def percentage (policy : ZeroTotalPolicy) (count total : Number) : Outcome Double :=
  if total.isZero then .ok policy.ofNothing
  else .ofArithmetic do (← count.mul 100).div total

/-- The quantities that a rule condition can refer to. -/
structure SkillMetrics where
  highCount : Number
  mediumCount : Number
  lowCount : Number
  totalSubskills : Number
  highPercent : Double
  mediumPercent : Double
  lowPercent : Double

namespace Counts

/-- The counts under their names. -/
def named (counts : Counts) : List (String × Number) :=
  [("high_count", counts.high), ("medium_count", counts.medium),
    ("low_count", counts.low), ("total", counts.total)]

/-- The counts below zero. -/
def negatives (counts : Counts) : List (String × Number) :=
  counts.named.filter (·.2.isNegative)

/-- Refuses counts below zero, which the error lists. -/
def check (counts : Counts) : Outcome Unit :=
  match counts.negatives with
  | [] => .ok ()
  | negatives =>
    let details := negatives.map fun (name, count) => (name, Json.number count)
    .error (.service (.validation "Counts must be non-negative" details))

/-- The metrics of counts that are not negative. -/
def metricsUnder (policy : ZeroTotalPolicy) (counts : Counts) : Outcome SkillMetrics := do
  let highPercent ← percentage policy counts.high counts.total
  let mediumPercent ← percentage policy counts.medium counts.total
  let lowPercent ← percentage policy counts.low counts.total
  return {
    highCount := counts.high
    mediumCount := counts.medium
    lowCount := counts.low
    totalSubskills := counts.total
    highPercent := highPercent
    mediumPercent := mediumPercent
    lowPercent := lowPercent }

/-- The metrics of counts under a policy. -/
def metrics (policy : ZeroTotalPolicy) (counts : Counts) : Outcome SkillMetrics := do
  counts.check
  counts.metricsUnder policy

/-- The metrics of counts under the policy with this name, which is looked at
after the counts. -/
def metricsUnderName (policy : String) (counts : Counts) : Outcome SkillMetrics := do
  counts.check
  counts.metricsUnder (← ZeroTotalPolicy.ofName policy)

/-- How often an item occurs. -/
private def occurrences {α : Type} [BEq α] (item : α) (items : List α) : Number :=
  .int (items.count item)

/-- The counts of ratings; a word that is no rating stands as none and counts in
the total alone. The total is the number of ratings unless one is given. -/
def ofRatings (ratings : List (Option Rating)) (total : Option Number) : Counts where
  high := occurrences (some .high) ratings
  medium := occurrences (some .medium) ratings
  low := occurrences (some .low) ratings
  total := total.getD (.int ratings.length)

/-- The counts of skill tiers, from the highest tier in the first slot to the
lowest in the last; a word that is no tier stands as none and counts in the total
alone. -/
def ofTiers (tiers : List (Option Tier)) : Counts where
  high := occurrences (some .expert) tiers
  medium := occurrences (some .intermediate) tiers
  low := occurrences (some .beginner) tiers
  total := .int tiers.length

end Counts

end SkillTiers
