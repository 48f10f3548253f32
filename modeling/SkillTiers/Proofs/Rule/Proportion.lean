/-
# Rules that look at proportions

Counts that are multiplied by a number, with their total, have the same shares, whatever
their size. So rules that mention nothing but shares above the lowest tier have the same tier
for both (`RuleSet.classifyCounts_scale`). The rule for the lowest tier may mention counts:
it can keep the larger ones from an answer, if they leave the range of doubles, and does not
change it.
-/

import SkillTiers.Proofs.Condition.Mentioned
import SkillTiers.Proofs.Rule.Priority
import SkillTiers.Proofs.Share
import SkillTiers.Rule.Seed

namespace SkillTiers

namespace WholeCounts

/-- The counts and their total, each so many times. -/
def scale (factor : Nat) (whole : WholeCounts) : WholeCounts where
  high := factor * whole.high
  medium := factor * whole.medium
  low := factor * whole.low
  total := factor * whole.total

/-- Scaled counts have metrics where the counts have, with the same shares. -/
theorem metrics_scale {policy : ZeroTotalPolicy} {whole : WholeCounts} {metrics : SkillMetrics}
    (hmetrics : whole.toCounts.metrics policy = .ok metrics) {factor : Nat}
    (hfactor : 0 < factor) :
    ∃ scaled, (whole.scale factor).toCounts.metrics policy = .ok scaled ∧
      ∀ name : MetricName, name.isPercentage = true → name.value metrics = name.value scaled := by
  rw [Counts.metrics_of_check whole.check_toCounts] at hmetrics
  obtain ⟨hhigh, hmedium, hlow⟩ := Counts.percentages_of_metricsUnder hmetrics
  have hscaled (count : Nat) := percentage_scale policy hfactor count whole.total
  rw [Counts.metrics_of_check (whole.scale factor).check_toCounts]
  refine ⟨⟨.int (factor * whole.high : Nat), .int (factor * whole.medium : Nat),
    .int (factor * whole.low : Nat), .int (factor * whole.total : Nat), metrics.highPercent,
    metrics.mediumPercent, metrics.lowPercent⟩, ?_, fun name hname => ?_⟩
  · unfold Counts.metricsUnder
    simp only [toCounts, scale, hscaled]
    simp only [toCounts] at hhigh hmedium hlow
    rw [hhigh, hmedium, hlow]
    rfl
  · cases name <;> first | rfl | cases hname

end WholeCounts

namespace Rule

/-- The rules that come first above the lowest tier mention no metrics but shares. -/
def LookAtShares (rules : List Rule) : Prop :=
  ∀ tier, tier ≠ .beginner → ∀ rule, firstFor? rules tier = some rule →
    ∀ name ∈ Condition.mentionedIn rule.conditions, name.isPercentage = true

/-- The rules that come first above the lowest tier have one answer for both metrics. -/
def AnswerAlike (rules : List Rule) (metrics metrics' : SkillMetrics) : Prop :=
  ∀ tier, tier ≠ .beginner → ∀ rule, firstFor? rules tier = some rule →
    evaluateLevel metrics rule.conditions = evaluateLevel metrics' rule.conditions

variable {rules : List Rule} {metrics metrics' : SkillMetrics} {tier : Tier}

/-- Rules that look at shares cannot tell metrics with the same shares apart. -/
theorem LookAtShares.answerAlike (hlook : LookAtShares rules)
    (hshares : ∀ name : MetricName, name.isPercentage = true →
      name.value metrics = name.value metrics') : AnswerAlike rules metrics metrics' :=
  fun tier htier rule hrule => Condition.evaluateLevel_congr fun name hname =>
    hshares name (hlook tier htier rule hrule name hname)

namespace AnswerAlike

variable (halike : AnswerAlike rules metrics metrics')

include halike

theorem reaches_iff (tier : Tier) (htier : tier ≠ .beginner) :
    Reaches rules metrics tier ↔ Reaches rules metrics' tier := by
  unfold Reaches
  refine exists_congr fun rule => and_congr_right fun hrule => ?_
  rw [halike tier htier rule hrule]

theorem evaluates_iff (tier : Tier) (htier : tier ≠ .beginner) :
    Evaluates rules metrics tier ↔ Evaluates rules metrics' tier := by
  unfold Evaluates
  refine forall₂_congr fun rule hrule => ?_
  rw [halike tier htier rule hrule]

/-- Where the tier is above the lowest one, no rule is tried that fails for the other
metrics. -/
theorem failsNowhere (hnowhere : FailsNowhere rules metrics) (hby : ByPriority rules metrics tier)
    (htier : tier ≠ .beginner) : FailsNowhere rules metrics' := by
  have hexpert := halike.reaches_iff .expert nofun
  have hintermediate := halike.reaches_iff .intermediate nofun
  refine ⟨hnowhere.load, ?_, fun hmissed => ?_, fun hmissed hmissed' => ?_⟩
  · exact (halike.evaluates_iff .expert nofun).mp hnowhere.expert
  · exact (halike.evaluates_iff .intermediate nofun).mp
      (hnowhere.intermediate (mt hexpert.mp hmissed))
  · exact absurd (hby.beginner.mpr ⟨mt hexpert.mp hmissed, mt hintermediate.mp hmissed'⟩) htier

end AnswerAlike

end Rule

namespace RuleSet

open Rule

variable {rules : List Rule} {policy : ZeroTotalPolicy} {whole : WholeCounts} {tier : Tier}

/-- Rules that look at shares above the lowest tier have, for counts that are scaled, the tier
of the counts, under every policy. If it is not the lowest one, they have it for sure. -/
theorem classifyCounts_scale (hlook : LookAtShares rules) {factor : Nat} (hfactor : 0 < factor)
    (htier : classifyCounts rules policy.name whole.toCounts = .ok tier) :
    (∀ other, classifyCounts rules policy.name (whole.scale factor).toCounts = .ok other →
      other = tier) ∧
    (tier ≠ .beginner →
      classifyCounts rules policy.name (whole.scale factor).toCounts = .ok tier) := by
  obtain ⟨hlevels, metrics, hmetrics, hnowhere, hby⟩ := classifyCounts_byPriority htier
  rw [Counts.metricsUnderName_name] at hmetrics
  obtain ⟨scaled, hscaled, hshares⟩ := WholeCounts.metrics_scale hmetrics hfactor
  rw [← Counts.metricsUnderName_name] at hscaled
  have halike := hlook.answerAlike hshares
  have hby' := hby.congr halike.reaches_iff
  refine ⟨fun other hother => ?_, fun habove => ?_⟩
  · obtain ⟨-, metrics', hmetrics', -, hother⟩ := classifyCounts_byPriority hother
    cases hscaled.symm.trans hmetrics'
    exact hby'.unique hother
  · obtain ⟨other, hanswer, hother⟩ :=
      (classifyCounts_cases hlevels hscaled).2 (halike.failsNowhere hnowhere hby habove)
    rw [hanswer, hby'.unique hother]

/-- The seed rules look at shares, the one for the lowest tier aside. -/
theorem lookAtShares_seed (first : Nat) : LookAtShares (Seed.rules first) := by
  have hshares : ∀ tier, tier ≠ Tier.beginner →
      ∀ name ∈ Condition.mentionedIn (Seed.conditions tier), name.isPercentage = true := by
    intro tier htier
    cases tier with
    | expert | intermediate => decide +kernel
    | beginner => exact absurd rfl htier
  intro tier htier rule hrule
  cases tier with
  | expert | intermediate =>
      cases hrule
      exact hshares _ htier
  | beginner => exact absurd rfl htier

/-- Half of ten ratings is half of any number of them. -/
theorem classifyCounts_scale_seed :
    LookAtShares (Seed.rules 1) ∧
      classifyCounts (Seed.rules 1) ZeroTotalPolicy.nan.name (WholeCounts.mk 1 5 4 10).toCounts =
        .ok .intermediate ∧
      classifyCounts (Seed.rules 1) ZeroTotalPolicy.nan.name
        (WholeCounts.scale (10 ^ 100) ⟨1, 5, 4, 10⟩).toCounts = .ok .intermediate := by
  have htier : classifyCounts (Seed.rules 1) ZeroTotalPolicy.nan.name
      (WholeCounts.mk 1 5 4 10).toCounts = .ok .intermediate :=
    ok_of_toOption (by decide +kernel)
  have hlook := lookAtShares_seed 1
  have hfactor : 0 < 10 ^ 100 := by decide
  exact ⟨hlook, htier, (classifyCounts_scale hlook hfactor htier).2 nofun⟩

end RuleSet

end SkillTiers
