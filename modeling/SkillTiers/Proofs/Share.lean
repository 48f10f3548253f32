/-
# Shares of a total

The share of a count in a total is one rounded quotient, of a hundred times the count by the
total (`percentage_of_total`). So a factor that count and total have in common does not
change it (`percentage_scale`), and for totals up to 2^40 it is on the same side of each
whole percentage up to 1000 as the exact quotient (`share_compare`).
-/

import SkillTiers.Proofs.Metrics
import SkillTiers.Proofs.Number.Natural

namespace SkillTiers

-- A power is the one of the core library, whatever else is imported.
attribute [local instance (high)] instPowNat

/-- A share of a total is the magnitude nearest to a hundred times the quotient, if that is
in range. -/
theorem percentage_of_total (policy : ZeroTotalPolicy) (count : Nat) {total : Nat}
    (htotal : 0 < total) :
    percentage policy (.int count) (.int total) =
      (Magnitude.round? (unitsPerOne * (count * 100)) total).elim
        (.error (.overflow .division)) fun size => .ok (.finite false size) := by
  have hzero : (Number.int total).isZero = false := by
    rw [Number.isZero_nat]
    exact decide_eq_false (Nat.ne_of_gt htotal)
  unfold percentage
  rw [hzero, if_neg Bool.false_ne_true, Number.ofNat_eq, Number.mul_nat]
  simp only [bind, Except.bind]
  unfold Number.div
  dsimp only
  rw [Double.ofIntQuotient?_nat]
  cases Magnitude.round? (unitsPerOne * (count * 100)) total with
  | none => rfl
  | some size => rfl

/-- A share of no total is what the policy says. -/
theorem percentage_of_nothing (policy : ZeroTotalPolicy) (count : Number) :
    percentage policy count (.int (0 : Nat)) = .ok policy.ofNothing := by
  unfold percentage
  rw [Number.isZero_nat]
  rfl

/-- The policy does not matter to a percentage of a total other than zero. -/
theorem percentage_policy {total : Number} (htotal : total.isZero = false) (count : Number)
    (policy policy' : ZeroTotalPolicy) :
    percentage policy count total = percentage policy' count total := by
  simp [percentage, htotal]

theorem Counts.metrics_policy {counts : Counts} (htotal : counts.total.isZero = false)
    (policy policy' : ZeroTotalPolicy) : counts.metrics policy = counts.metrics policy' := by
  simp only [metrics, metricsUnder, percentage_policy htotal _ policy policy']

/-- A common factor of count and total does not change the share, nor whether there is one. -/
theorem percentage_scale (policy : ZeroTotalPolicy) {factor : Nat} (hfactor : 0 < factor)
    (count total : Nat) :
    percentage policy (.int (factor * count : Nat)) (.int (factor * total : Nat)) =
      percentage policy (.int count) (.int total) := by
  rcases Nat.eq_zero_or_pos total with rfl | htotal
  · rw [Nat.mul_zero, percentage_of_nothing, percentage_of_nothing]
  · have hscaled := Nat.mul_pos hfactor htotal
    rw [percentage_of_total policy _ hscaled, percentage_of_total policy _ htotal,
      Magnitude.round?_congr hscaled htotal]
    ring

/-- A share in range is a magnitude. -/
theorem percentage_eq_finite (policy : ZeroTotalPolicy) {count total : Nat} (htotal : 0 < total)
    (hrange : count * 100 < rangeLimit * total) :
    ∃ size : Magnitude, percentage policy (.int count) (.int total) = .ok (.finite false size) ∧
      size.units = roundUnits (unitsPerOne * (count * 100)) total := by
  have hunits : roundUnits (unitsPerOne * (count * 100)) total < unitsCeiling := by
    rw [roundUnits_lt_unitsCeiling htotal, Nat.mul_assoc]
    exact Nat.mul_lt_mul_of_pos_left hrange unitsPerOne_pos
  rw [percentage_of_total policy count htotal, Magnitude.round?, dif_pos hunits]
  exact ⟨_, rfl, rfl⟩

/-- The count that a percentage is the share of; zero where the name stands for a count. -/
def MetricName.part (whole : WholeCounts) : MetricName → Nat
  | .highPercent | .highPercentLong => whole.high
  | .mediumPercent | .mediumPercentLong => whole.medium
  | .lowPercent | .lowPercentLong => whole.low
  | _ => 0

/-- The percentages among the metrics of counts are the shares of these. -/
theorem Counts.percentages_of_metricsUnder {policy : ZeroTotalPolicy} {counts : Counts}
    {metrics : SkillMetrics} (hmetrics : counts.metricsUnder policy = .ok metrics) :
    percentage policy counts.high counts.total = .ok metrics.highPercent ∧
      percentage policy counts.medium counts.total = .ok metrics.mediumPercent ∧
      percentage policy counts.low counts.total = .ok metrics.lowPercent := by
  obtain ⟨high, medium, low, hhigh, hmedium, hlow, rfl⟩ := metricsUnder_ok hmetrics
  exact ⟨hhigh, hmedium, hlow⟩

/-- A percentage among the metrics of whole counts is the share of one of these. -/
theorem WholeCounts.percentage_of_metrics {policy : ZeroTotalPolicy} {whole : WholeCounts}
    {metrics : SkillMetrics} (hmetrics : whole.toCounts.metrics policy = .ok metrics)
    {name : MetricName} (hname : name.isPercentage = true) :
    ∃ percent, percentage policy (.int (name.part whole)) (.int whole.total) = .ok percent ∧
      name.value metrics = .float percent := by
  rw [Counts.metrics_of_check whole.check_toCounts] at hmetrics
  obtain ⟨hhigh, hmedium, hlow⟩ := Counts.percentages_of_metricsUnder hmetrics
  cases name with
  | highPercent | highPercentLong => exact ⟨_, hhigh, rfl⟩
  | mediumPercent | mediumPercentLong => exact ⟨_, hmedium, rfl⟩
  | lowPercent | lowPercentLong => exact ⟨_, hlow, rfl⟩
  | highCount | mediumCount | lowCount | total => cases hname

/-- A share is below a whole percentage if the quotient is, and equal to it if the quotient
is. -/
theorem share_compare {count total whole : Nat} (htotal : 0 < total)
    (hbound : total ≤ 2 ^ (40 : Nat)) (hwhole : whole ≤ 1000) :
    (roundUnits (unitsPerOne * (count * 100)) total < unitsPerOne * whole ↔
        count * 100 < whole * total) ∧
      (roundUnits (unitsPerOne * (count * 100)) total = unitsPerOne * whole ↔
        count * 100 = whole * total) := by
  have hplace : 40 ≤ unitPlaces := by
    unfold unitPlaces
    decide
  have hplaces : whole * 2 ^ (40 : Nat) < 2 ^ (53 : Nat) :=
    lt_of_le_of_lt (Nat.mul_le_mul_right _ hwhole) (by decide)
  exact roundUnits_compare hplace htotal hplaces hbound

end SkillTiers
