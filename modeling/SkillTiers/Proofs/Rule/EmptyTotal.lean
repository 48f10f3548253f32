/-
# Rules where there is no total

Where there is no total, a policy says what stands for a share. Rules with a guard in every
group above the lowest tier have no use for it: under either policy they reach nothing, and
the lowest tier is the answer. Where there is a total, the policy has no part. So the two
policies agree for such rules, and the seed rules are among them
(`RuleSet.classifyCounts_of_guarded`).
-/

import SkillTiers.Proofs.Condition.Guard
import SkillTiers.Proofs.Rule.Priority
import SkillTiers.Rule.Seed

namespace SkillTiers

namespace Rule

/-- The rules that come first above the lowest tier have a guard in every group. -/
def GuardedAbove (rules : List Rule) : Prop :=
  ∀ tier, tier ≠ .beginner → ∀ rule, firstFor? rules tier = some rule →
    Condition.IsGuarded rule.conditions

/-- Where there are no shares, guarded rules reach nothing. -/
theorem GuardedAbove.not_reaches {rules : List Rule} (hguarded : GuardedAbove rules)
    {metrics : SkillMetrics} (hvoid : metrics.HaveNoShares) {tier : Tier}
    (htier : tier ≠ .beginner) : ¬ Reaches rules metrics tier := by
  rintro ⟨rule, hrule, hholds⟩
  exact Condition.evaluateLevel_of_guarded (hguarded tier htier rule hrule) hvoid hholds

/-- In the seed rules the first condition of each group is a guard. -/
theorem guardedAbove_seed (first : Nat) : GuardedAbove (Seed.rules first) := by
  intro tier htier rule hrule
  cases tier with
  | expert | intermediate =>
      cases hrule
      refine List.forall_mem_cons.mpr ⟨⟨_, List.mem_cons_self, ?_⟩, List.forall_mem_singleton.mpr
        ⟨_, List.mem_cons_self, ?_⟩⟩
      all_goals exact .of_number (by decide +kernel) (.inl rfl) rfl rfl (by decide +kernel)
  | beginner => exact absurd rfl htier

end Rule

namespace RuleSet

open Rule

variable {rules : List Rule} {policy : ZeroTotalPolicy} {whole : WholeCounts} {tier : Tier}

/-- Guarded rules have the lowest tier for an empty total. -/
theorem classifyCounts_of_no_total (hguarded : GuardedAbove rules) (htotal : whole.total = 0)
    (htier : classifyCounts rules policy.name whole.toCounts = .ok tier) : tier = .beginner := by
  obtain ⟨-, metrics, hmetrics, -, hby⟩ := classifyCounts_byPriority htier
  rw [Counts.metricsUnderName_name] at hmetrics
  have hvoid := WholeCounts.haveNoShares hmetrics htotal
  exact hby.beginner.mpr ⟨hguarded.not_reaches hvoid nofun, hguarded.not_reaches hvoid nofun⟩

/-- Where there is a total, rules have the same tier under either policy, or fail alike. -/
theorem classifyCounts_policy (rules : List Rule) (htotal : 0 < whole.total)
    (policy policy' : ZeroTotalPolicy) :
    classifyCounts rules policy.name whole.toCounts =
      classifyCounts rules policy'.name whole.toCounts := by
  have hzero : whole.toCounts.total.isZero = false := by
    change (Number.int whole.total).isZero = false
    rw [Number.isZero_nat]
    exact decide_eq_false (Nat.ne_of_gt htotal)
  rw [classifyCounts, classifyCounts, Counts.metricsUnderName_name, Counts.metricsUnderName_name,
    Counts.metrics_policy hzero policy policy']

/-- Rules with a guard in every group above the lowest tier have the same tier under both
policies, whatever the counts, and the lowest one where there is no total. The seed rules
have such guards. -/
theorem classifyCounts_of_guarded :
    (∀ rules, GuardedAbove rules → ∀ whole : WholeCounts,
      (∀ tier tier',
        classifyCounts rules ZeroTotalPolicy.nan.name whole.toCounts = .ok tier →
        classifyCounts rules ZeroTotalPolicy.zero.name whole.toCounts = .ok tier' →
          tier = tier') ∧
      (whole.total = 0 → ∀ (policy : ZeroTotalPolicy) (tier : Tier),
        classifyCounts rules policy.name whole.toCounts = .ok tier → tier = .beginner)) ∧
    ∀ first, GuardedAbove (Seed.rules first) := by
  refine ⟨fun rules hguarded whole => ⟨fun tier tier' hnan hzero => ?_, fun htotal policy tier =>
    classifyCounts_of_no_total hguarded htotal⟩, guardedAbove_seed⟩
  rcases Nat.eq_zero_or_pos whole.total with htotal | htotal
  · rw [classifyCounts_of_no_total hguarded htotal hnan,
      classifyCounts_of_no_total hguarded htotal hzero]
  · rw [classifyCounts_policy rules htotal .nan .zero, hzero] at hnan
    exact (Except.ok.inj hnan).symm

/-- Two high ratings in no total have the lowest tier under the seed rules. -/
theorem classifyCounts_of_guarded_seed :
    GuardedAbove (Seed.rules 1) ∧
      classifyCounts (Seed.rules 1) ZeroTotalPolicy.nan.name (WholeCounts.mk 2 0 0 0).toCounts =
        .ok .beginner ∧
      classifyCounts (Seed.rules 1) ZeroTotalPolicy.zero.name
        (WholeCounts.mk 2 0 0 0).toCounts = .ok .beginner := by
  have hanswer (policy : ZeroTotalPolicy) : IsResult
      (classifyCounts (Seed.rules 1) policy.name (WholeCounts.mk 2 0 0 0).toCounts) :=
    isResult_of_isSome (by cases policy <;> decide +kernel)
  obtain ⟨hrules, hseed⟩ := classifyCounts_of_guarded
  obtain ⟨hagree, hlowest⟩ := hrules _ (hseed 1) ⟨2, 0, 0, 0⟩
  obtain ⟨tier, htier⟩ := hanswer .nan
  obtain ⟨tier', htier'⟩ := hanswer .zero
  cases hagree tier tier' htier htier'
  cases hlowest rfl .nan tier htier
  exact ⟨hseed 1, htier, htier'⟩

end RuleSet

end SkillTiers
