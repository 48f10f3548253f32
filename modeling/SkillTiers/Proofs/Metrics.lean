/-
# When counts have metrics

A share of a total is a quotient of integers, taken before it is rounded. It is there
as long as a hundred times the count is below the limit of doubles times the total, so
counts of any size have metrics if none is out of proportion to the total
(`WholeCounts.isResult_metrics`), and a total of zero asks for nothing.
-/

import SkillTiers.Proofs.Condition.Totality

namespace SkillTiers

namespace Number

theorem ofNat_eq (value : Nat) : (OfNat.ofNat value : Number) = .int value :=
  rfl

/-- A whole number is zero as an integer is. -/
theorem isZero_nat (value : Nat) : (Number.int value).isZero = decide (value = 0) := by
  have hunits : 0 < unitsPerOne := Nat.two_pow_pos unitPlaces
  have hscaled : (value : Int) * unitsPerOne = 0 ↔ value = 0 := by
    rw [Int.mul_eq_zero]
    omega
  simp only [isZero, same, related, place?, Int.natCast_zero, Int.zero_mul]
  rw [Bool.eq_iff_iff, beq_iff_eq, Place.point.injEq, hscaled, decide_eq_true_iff]

/-- A whole number is not below zero. -/
theorem isNegative_nat (value : Nat) : (Number.int value).isNegative = false := by
  have hscaled : ¬ (value : Int) * unitsPerOne < 0 :=
    Int.not_lt.mpr (Int.mul_nonneg (Int.natCast_nonneg _) (Int.natCast_nonneg _))
  simp only [isNegative, lt, related, place?, Int.natCast_zero, Int.zero_mul, Place.before]
  exact decide_eq_false hscaled

theorem mul_nat (value factor : Nat) :
    (Number.int value).mul (.int factor) = .ok (.int (value * factor : Nat)) := by
  rw [mul, Int.natCast_mul]

end Number

/-- A percentage of whole numbers is there if the total is zero, or the count in
proportion to it. -/
theorem isResult_percentage (policy : ZeroTotalPolicy) (count total : Nat) :
    IsResult (percentage policy (.int count) (.int total)) ↔
      (0 < total → count * 100 < rangeLimit * total) := by
  unfold percentage
  rw [Number.isZero_nat]
  by_cases hzero : total = 0
  · rw [if_pos (decide_eq_true hzero)]
    exact iff_of_true (isResult_ok _) fun h => absurd hzero (Nat.ne_of_gt h)
  · rw [if_neg (by simpa using hzero), Number.ofNat_eq, Number.mul_nat]
    simp only [bind, Except.bind]
    have hcases := @Number.div_int_cases (count * 100 : Nat) total (Int.natCast_ne_zero.mpr hzero)
    rcases hcases with ⟨hsmall, double, hdouble⟩ | ⟨hbig, hdouble⟩
    · rw [hdouble]
      rw [Int.natAbs_natCast, Int.natAbs_natCast] at hsmall
      exact iff_of_true (isResult_ok _) fun _ => hsmall
    · rw [hdouble]
      rw [Int.natAbs_natCast, Int.natAbs_natCast] at hbig
      exact iff_of_false (not_isResult_error _) fun h =>
        absurd (h (Nat.pos_of_ne_zero hzero)) (Nat.not_lt.mpr hbig)

/-- The failure is that a number leaves the range of doubles. -/
def Failure.IsOverflow (failure : Failure) : Prop :=
  ∃ cause, failure = .overflow cause

theorem failsWithin_percentage (policy : ZeroTotalPolicy) (count total : Number) :
    FailsWithin Failure.IsOverflow (percentage policy count total) := by
  unfold percentage
  split
  · exact failsWithin_ok _ _
  · generalize (do (← count.mul 100).div total) = quotient
    cases quotient with
    | ok value => exact failsWithin_ok _ _
    | error cause => exact failsWithin_error ⟨cause, rfl⟩

namespace Counts

theorem check_of_negatives {counts : Counts} (hnone : counts.negatives = []) :
    counts.check = .ok () := by
  unfold check
  rw [hnone]

/-- Counts that pass the check are not asked again. -/
theorem metrics_of_check {counts : Counts} (hcheck : counts.check = .ok ())
    (policy : ZeroTotalPolicy) : counts.metrics policy = counts.metricsUnder policy := by
  unfold metrics
  rw [hcheck]
  rfl

/-- A policy may be given by its name. -/
theorem metricsUnderName_name (policy : ZeroTotalPolicy) (counts : Counts) :
    counts.metricsUnderName policy.name = counts.metrics policy := by
  have hpolicy : ZeroTotalPolicy.ofName policy.name = .ok policy := by
    cases policy <;> rfl
  unfold metricsUnderName metrics
  rw [hpolicy]
  rfl

theorem failsWithin_metricsUnder (policy : ZeroTotalPolicy) (counts : Counts) :
    FailsWithin Failure.IsOverflow (counts.metricsUnder policy) :=
  (failsWithin_percentage _ _ _).bind fun _ => (failsWithin_percentage _ _ _).bind fun _ =>
    (failsWithin_percentage _ _ _).bind fun _ => failsWithin_ok _ _

/-- The metrics of counts are these counts and their shares of the total. -/
theorem metricsUnder_ok {policy : ZeroTotalPolicy} {counts : Counts} {metrics : SkillMetrics}
    (hmetrics : counts.metricsUnder policy = .ok metrics) :
    ∃ high medium low, percentage policy counts.high counts.total = .ok high ∧
      percentage policy counts.medium counts.total = .ok medium ∧
      percentage policy counts.low counts.total = .ok low ∧
      metrics = ⟨counts.high, counts.medium, counts.low, counts.total, high, medium, low⟩ := by
  unfold metricsUnder at hmetrics
  cases hhigh : percentage policy counts.high counts.total with
  | error failure =>
      rw [hhigh] at hmetrics
      cases hmetrics
  | ok high =>
      rw [hhigh] at hmetrics
      obtain ⟨medium, low, hmedium, hlow, rfl⟩ := map₂_ok hmetrics
      exact ⟨high, medium, low, rfl, hmedium, hlow, rfl⟩

end Counts

namespace WholeCounts

/-- The share of each slot is in range: there is no total, or none of the slots is out
of proportion to it. -/
def SharesInRange (whole : WholeCounts) : Prop :=
  0 < whole.total → ∀ count ∈ [whole.high, whole.medium, whole.low],
    count * 100 < rangeLimit * whole.total

/-- Whole counts pass the check. -/
theorem check_toCounts (whole : WholeCounts) : whole.toCounts.check = .ok () := by
  apply Counts.check_of_negatives
  refine List.filter_eq_nil_iff.mpr fun item hitem => ?_
  have hnatural : ∃ value : Nat, item.2 = .int value := by
    simp only [Counts.named, toCounts, List.mem_cons, List.not_mem_nil, or_false] at hitem
    rcases hitem with rfl | rfl | rfl | rfl <;> exact ⟨_, rfl⟩
  obtain ⟨value, hvalue⟩ := hnatural
  rw [hvalue, Number.isNegative_nat]
  exact Bool.false_ne_true

/-- Whole counts have metrics if and only if their shares are in range. -/
theorem isResult_metrics (policy : ZeroTotalPolicy) (whole : WholeCounts) :
    IsResult (whole.toCounts.metrics policy) ↔ whole.SharesInRange := by
  rw [Counts.metrics_of_check whole.check_toCounts]
  refine (isResult_map₃ _ _ _ _).trans ?_
  unfold toCounts SharesInRange
  dsimp only
  rw [isResult_percentage, isResult_percentage, isResult_percentage]
  simp only [List.forall_mem_cons, List.not_mem_nil, false_implies, implies_true, and_true,
    imp_and]

/-- Where a share of whole counts is out of range, there are no metrics. -/
theorem metrics_overflow {whole : WholeCounts} (hshares : ¬ whole.SharesInRange)
    (policy : ZeroTotalPolicy) :
    ∃ cause, whole.toCounts.metrics policy = .error (.overflow cause) := by
  cases hmetrics : whole.toCounts.metrics policy with
  | ok metrics => exact absurd ((isResult_metrics policy whole).mp ⟨metrics, hmetrics⟩) hshares
  | error failure =>
      rw [Counts.metrics_of_check whole.check_toCounts] at hmetrics
      obtain ⟨cause, rfl⟩ := Counts.failsWithin_metricsUnder policy _ failure hmetrics
      exact ⟨cause, rfl⟩

/-- The metrics of whole counts have these counts. -/
theorem areOf_metrics {policy : ZeroTotalPolicy} {whole : WholeCounts} {metrics : SkillMetrics}
    (hmetrics : whole.toCounts.metrics policy = .ok metrics) : whole.AreOf metrics := by
  rw [Counts.metrics_of_check whole.check_toCounts] at hmetrics
  obtain ⟨_, _, _, -, -, -, rfl⟩ := Counts.metricsUnder_ok hmetrics
  exact ⟨rfl, rfl, rfl, rfl⟩

end WholeCounts

end SkillTiers
