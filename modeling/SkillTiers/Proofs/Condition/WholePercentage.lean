/-
# Whole percentages as thresholds

A condition that compares a share with a whole number is decided exactly: it says of the
rounded share what the relation says of a hundred times the count and the number times the
total, which are integers (`Condition.evaluate_whole_percentage`). No rating just at, below
or above the threshold is moved by rounding, as one is where the quotient is rounded before
it is multiplied: 29 in 100 would be less than 29 percent.
-/

import SkillTiers.Proofs.Condition.Mentioned
import SkillTiers.Proofs.Condition.SpelledOut
import SkillTiers.Proofs.Rule.Totality
import SkillTiers.Proofs.Share

namespace SkillTiers

-- A power is the one of the core library, whatever else is imported.
attribute [local instance (high)] instPowNat

namespace Relation

/-- Whether two integers stand in the relation. -/
def ofInts : Relation → Int → Int → Bool
  | .atLeast, x, y => decide (y ≤ x)
  | .above, x, y => decide (y < x)
  | .atMost, x, y => decide (x ≤ y)
  | .below, x, y => decide (x < y)
  | .equal, x, y => decide (x = y)

/-- Numbers that have places stand in the relation of their places. -/
theorem holds_of_points {x y : Number} {p q : Int} (hx : x.place? = some (.point p))
    (hy : y.place? = some (.point q)) (relation : Relation) :
    relation.holds x y = relation.ofInts p q := by
  have hequal : (Place.point p == .point q) = decide (p = q) := by
    rw [Bool.eq_iff_iff, beq_iff_eq, Place.point.injEq, decide_eq_true_iff]
  have hnot (a b : Int) : (!decide (a < b)) = decide (b ≤ a) := by
    rw [← decide_not, decide_eq_decide, Int.not_lt]
  cases relation <;>
    simp only [holds, ofInts, Number.le, Number.lt, Number.same, Number.related, Place.before,
      hx, hy, hequal, hnot]

/-- The relation of integers is decided by their order. -/
theorem ofInts_congr {x y x' y' : Int} (hless : x < y ↔ x' < y') (hsame : x = y ↔ x' = y')
    (relation : Relation) : relation.ofInts x y = relation.ofInts x' y' := by
  cases relation <;> simp only [ofInts, decide_eq_decide] <;> omega

end Relation

/-! ### Conditions on a share -/

namespace Condition

/-- The condition compares one metric with a whole number, however the number is written. -/
structure AsksFor (condition : Condition) (name : MetricName) (relation : Relation)
    (whole : Nat) : Prop where
  metric : (Operand.parse (condition.metric.getD "")).terms.map Term.name? = [some name]
  operator : condition.operator = some relation.sign
  metric2 : condition.otherMetric? = none
  value : Threshold.ofJson condition.value = Threshold.ofJson (.ofInt whole)

variable {condition : Condition} {name : MetricName} {relation : Relation} {whole : Nat}
  {metrics : SkillMetrics}

/-- The sum of one term is the metric that it names. -/
theorem AsksFor.left_value (hasks : condition.AsksFor name relation whole) {size : Magnitude}
    (hvalue : name.value metrics = .float (.finite false size)) :
    (Operand.parse (condition.metric.getD "")).value metrics =
      .ok (.float (.finite false size)) := by
  obtain ⟨term, hterms, hname⟩ := List.map_eq_singleton_iff.mp hasks.metric
  have hterm : term.value metrics = .float (.finite false size) := by
    rw [Term.value, hname]
    exact hvalue
  rw [Operand.value, hterms, List.foldlM_cons, hterm, Number.zero_add_float,
    Double.zero_add_finite]
  rfl

/-- A condition with a whole number as its threshold compares the places of the two sides. -/
theorem evaluate_of_left (hoperator : condition.operator = some relation.sign)
    (hmetric2 : condition.otherMetric? = none)
    (hvalue : Threshold.ofJson condition.value = Threshold.ofJson (.ofInt whole))
    (hwhole : whole < 2 ^ (53 : Nat)) {size : Magnitude}
    (hleft : (Operand.parse (condition.metric.getD "")).value metrics =
      .ok (.float (.finite false size))) :
    condition.evaluate metrics =
      .ok (relation.ofInts size.units (unitsPerOne * whole : Nat)) := by
  obtain ⟨bound, hbound, hunits⟩ := Number.toDouble_nat_small hwhole
  have hthreshold : Threshold.ofJson condition.value = .ok (.given (.finite false bound)) := by
    rw [hvalue, Json.ofInt, Threshold.ofJson, hbound]
    rfl
  have hrelation : Relation.ofSign? condition.operator = some relation :=
    Relation.ofSign?_eq_some.mpr hoperator
  have hholds : relation.holds (.float (.finite false size))
      (Threshold.given (.finite false bound)).value = relation.ofInts size.units bound.units :=
    Relation.holds_of_points rfl rfl relation
  rw [evaluate_of_relation hrelation hmetric2, hthreshold, hleft, ← hunits, ← hholds]
  rfl

/-- So does a condition on one metric. -/
theorem AsksFor.evaluate (hasks : condition.AsksFor name relation whole)
    (hwhole : whole < 2 ^ (53 : Nat)) {size : Magnitude}
    (hvalue : name.value metrics = .float (.finite false size)) :
    condition.evaluate metrics =
      .ok (relation.ofInts size.units (unitsPerOne * whole : Nat)) :=
  evaluate_of_left hasks.operator hasks.metric2 hasks.value hwhole (hasks.left_value hvalue)

/-- A condition on a share and a whole number up to 1000 gives, for counts up to 2^60 in
totals up to 2^40, the answer of the integers: a hundred times the count on the left, the
number times the total on the right. Such counts have metrics. -/
theorem evaluate_whole_percentage (hname : name.isPercentage = true)
    (hasks : condition.AsksFor name relation whole) (hwhole : whole ≤ 1000)
    {counts : WholeCounts} (hcount : name.part counts ≤ 2 ^ (60 : Nat)) (htotal : 0 < counts.total)
    (hbound : counts.total ≤ 2 ^ (40 : Nat)) (policy : ZeroTotalPolicy) :
    (∀ metrics, counts.toCounts.metrics policy = .ok metrics →
      condition.evaluate metrics =
        .ok (relation.ofInts (100 * name.part counts) (whole * counts.total))) ∧
    ((∀ count ∈ [counts.high, counts.medium, counts.low], count ≤ 2 ^ (60 : Nat)) →
      IsResult (counts.toCounts.metrics policy)) := by
  have hrange (count : Nat) (hcount : count ≤ 2 ^ (60 : Nat)) :
      count * 100 < rangeLimit * counts.total := by
    have hplaces : 2 ^ (14 : Nat) ≤ 2 ^ topPlaces :=
      Nat.pow_le_pow_right (by decide) (by unfold topPlaces; decide)
    calc count * 100 ≤ 2 ^ (60 : Nat) * 100 := Nat.mul_le_mul_right 100 hcount
      _ ≤ 2 ^ topPlaces * 2 ^ (53 : Nat) := by omega
      _ < rangeLimit := two_pow_lt_rangeLimit
      _ ≤ rangeLimit * counts.total := Nat.le_mul_of_pos_right _ htotal
  refine ⟨fun metrics hmetrics => ?_, fun hcounts => ?_⟩
  · obtain ⟨percent, hpercent, hvalue⟩ := WholeCounts.percentage_of_metrics hmetrics hname
    obtain ⟨size, hsize, hunits⟩ := percentage_eq_finite policy htotal (hrange _ hcount)
    cases hpercent.symm.trans hsize
    have hsmall : whole < 2 ^ (53 : Nat) := lt_of_le_of_lt hwhole (by decide)
    obtain ⟨hless, hsame⟩ := @share_compare (name.part counts) _ _ htotal hbound hwhole
    have hanswer : relation.ofInts size.units (unitsPerOne * whole : Nat) =
        relation.ofInts (100 * name.part counts) (whole * counts.total) := by
      rw [hunits]
      apply Relation.ofInts_congr
      · rw [Int.ofNat_lt, hless]
        omega
      · rw [Int.ofNat_inj, hsame]
        omega
    rw [hasks.evaluate hsmall hvalue, hanswer]
  · exact (WholeCounts.isResult_metrics policy counts).mpr fun _ count hmem =>
      hrange count (hcounts count hmem)

/-- Less than 29 percent have a low rating. -/
def fewLow : Condition :=
  ⟨some " low% ", some "<", .ofInt 29, none, none, [], none⟩

/-- Of 29 in 100 it does not hold, though 29 / 100 * 100 is less than 29 when each step is
rounded. -/
theorem evaluate_whole_percentage_fewLow :
    fewLow.AsksFor .lowPercent .below 29 ∧
      ∃ metrics, (WholeCounts.mk 0 0 29 100).toCounts.metrics .nan = .ok metrics ∧
        fewLow.evaluate metrics = .ok false := by
  have hasks : fewLow.AsksFor .lowPercent .below 29 :=
    ⟨by decide +kernel, rfl, rfl, rfl⟩
  obtain ⟨hevaluate, hmetrics⟩ := evaluate_whole_percentage rfl hasks (by decide)
    (by decide : MetricName.part ⟨0, 0, 29, 100⟩ .lowPercent ≤ 2 ^ (60 : Nat)) (by decide)
    (by decide) .nan
  obtain ⟨metrics, hmetrics⟩ := hmetrics (by decide)
  exact ⟨hasks, metrics, hmetrics, hevaluate metrics hmetrics⟩

end Condition

end SkillTiers
