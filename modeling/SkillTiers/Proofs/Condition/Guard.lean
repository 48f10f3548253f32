/-
# Conditions that keep out what has no total

Where there is no total, a share is undefined or zero, as the policy says, and so is a sum of
shares (`Operand.value_of_voids`). A condition that asks such a sum to reach a number above
zero does not hold then, under either policy (`Condition.IsGuard.evaluate`). It guards its
group: whatever else the group asks for, the group does not hold, and a level with a guard in
every group is not reached (`Condition.evaluateLevel_of_guarded`).
-/

import SkillTiers.Proofs.Condition.Mentioned
import SkillTiers.Proofs.Share

namespace SkillTiers

/-- A place does not lie before those that lie before it. -/
theorem Place.before_asymm {p q : Place} (hbefore : p.before q = true) : q.before p = false := by
  cases p with
  | belowAll => cases q <;> rfl
  | aboveAll => cases q <;> cases hbefore
  | point x =>
      cases q with
      | belowAll => cases hbefore
      | aboveAll => rfl
      | point y =>
          exact decide_eq_false (Int.not_lt.mpr (Int.le_of_lt (of_decide_eq_true hbefore)))

namespace Number

/-- What a share or an unknown name can be where there is no total. -/
inductive IsVoid : Number → Prop where
  | unknown : IsVoid 0
  | zero : IsVoid (.float .zero)
  | undefined : IsVoid (.float .nan)

/-- A sum of voids is void. -/
theorem IsVoid.add {x y : Number} (hx : x.IsVoid) (hy : y.IsVoid) :
    ∃ sum, x.add y = .ok sum ∧ sum.IsVoid := by
  have hzeros : Double.zero.add Double.zero = Double.zero := Double.zero_add_finite .zero
  cases hx with
  | unknown =>
      cases hy with
      | unknown => exact ⟨0, rfl, .unknown⟩
      | zero => exact ⟨.float .zero, by rw [zero_add_float, hzeros], .zero⟩
      | undefined => exact ⟨.float .nan, zero_add_float .nan, .undefined⟩
  | zero =>
      cases hy with
      | unknown => exact ⟨.float .zero, by rw [float_add_zero, hzeros], .zero⟩
      | zero =>
          exact ⟨.float .zero, congrArg (fun sum => Except.ok (Number.float sum)) hzeros, .zero⟩
      | undefined => exact ⟨.float .nan, rfl, .undefined⟩
  | undefined =>
      cases hy with
      | unknown => exact ⟨.float .nan, float_add_zero .nan, .undefined⟩
      | zero => exact ⟨.float .nan, rfl, .undefined⟩
      | undefined => exact ⟨.float .nan, rfl, .undefined⟩

/-- So is a sum of many of them. -/
theorem isVoid_foldlM {values : List Number} (hvalues : ∀ value ∈ values, value.IsVoid)
    {start : Number} (hstart : start.IsVoid) :
    ∃ sum, values.foldlM Number.add start = .ok sum ∧ sum.IsVoid := by
  induction values generalizing start with
  | nil => exact ⟨start, rfl, hstart⟩
  | cons value rest ih =>
      obtain ⟨hvalue, hrest⟩ := List.forall_mem_cons.mp hvalues
      obtain ⟨sum, hsum, hvoid⟩ := hstart.add hvalue
      rw [List.foldlM_cons, hsum]
      exact ih hrest hvoid

/-- A void lies nowhere or at zero. -/
theorem IsVoid.place?_cases {x : Number} (hx : x.IsVoid) :
    x.place? = none ∨ x.place? = some (.point 0) := by
  cases hx with
  | unknown => exact .inr (by decide +kernel)
  | zero => exact .inr rfl
  | undefined => exact .inl rfl

/-- A void does not reach what is above zero. -/
theorem IsVoid.not_reaches {x y : Number} (hx : x.IsVoid) (hy : (0 : Number).lt y = true) :
    y.le x = false ∧ y.lt x = false := by
  have hzero : (0 : Number).place? = some (.point 0) := by decide +kernel
  unfold lt related at hy
  rw [hzero] at hy
  unfold le lt related
  cases hplace : y.place? with
  | none => exact ⟨rfl, rfl⟩
  | some place =>
      rw [hplace] at hy
      have habove : (Place.point 0).before place = true := hy
      rcases hx.place?_cases with hvoid | hvoid
      · rw [hvoid]
        exact ⟨rfl, rfl⟩
      · rw [hvoid]
        exact ⟨congrArg not habove, Place.before_asymm habove⟩

end Number

/-- Among the metrics no share says anything. -/
def SkillMetrics.HaveNoShares (metrics : SkillMetrics) : Prop :=
  ∀ name : MetricName, name.isPercentage = true → (name.value metrics).IsVoid

/-- Without a total there are no shares. -/
theorem WholeCounts.haveNoShares {policy : ZeroTotalPolicy} {whole : WholeCounts}
    {metrics : SkillMetrics} (hmetrics : whole.toCounts.metrics policy = .ok metrics)
    (htotal : whole.total = 0) : metrics.HaveNoShares := by
  intro name hname
  obtain ⟨percent, hpercent, hvalue⟩ := percentage_of_metrics hmetrics hname
  rw [htotal, percentage_of_nothing] at hpercent
  cases hpercent
  rw [hvalue]
  cases policy with
  | nan => exact .undefined
  | zero => exact .zero

/-- A sum of shares and unknown names is void where there are no shares. -/
theorem Operand.value_of_voids {metrics : SkillMetrics} (hvoid : metrics.HaveNoShares)
    {operand : Operand} (hshares : ∀ name ∈ operand.mentioned, name.isPercentage = true) :
    ∃ sum, operand.value metrics = .ok sum ∧ sum.IsVoid := by
  have hterms : ∀ value ∈ operand.terms.map (·.value metrics), value.IsVoid := by
    refine List.forall_mem_map.mpr fun term hterm => ?_
    unfold Term.value
    cases hname : term.name? with
    | none => exact .unknown
    | some name =>
        exact hvoid name (hshares name (List.mem_filterMap.mpr ⟨term, hterm, hname⟩))
  obtain ⟨sum, hsum, hresult⟩ := Number.isVoid_foldlM hterms .unknown
  rw [value_eq_foldlM, hsum]
  exact ⟨sum, rfl, hresult⟩

namespace Condition

/-- The condition asks a sum of shares to reach a number above zero. A threshold that is out
of the range of doubles is none: a condition with it is not compiled. -/
structure IsGuard (condition : Condition) : Prop where
  metric : ∀ name ∈ (Operand.parse (condition.metric.getD "")).mentioned,
    name.isPercentage = true
  operator : condition.operator = some ">=" ∨ condition.operator = some ">"
  metric2 : condition.otherMetric? = none
  value : ∀ threshold, Threshold.ofJson condition.value = .ok threshold →
    (0 : Number).lt threshold.value = true

/-- A number above zero is a threshold above zero, if it is in range. -/
theorem IsGuard.of_number {condition : Condition} {number : Number}
    (metric : ∀ name ∈ (Operand.parse (condition.metric.getD "")).mentioned,
      name.isPercentage = true)
    (operator : condition.operator = some ">=" ∨ condition.operator = some ">")
    (metric2 : condition.otherMetric? = none) (hvalue : condition.value = .number number)
    (hpositive : (0 : Number).lt number = true) : condition.IsGuard where
  metric
  operator
  metric2
  value threshold hthreshold := by
    rw [hvalue, Threshold.ofJson] at hthreshold
    cases hdouble : number.toDouble with
    | error cause =>
        rw [hdouble] at hthreshold
        cases hthreshold
    | ok double =>
        rw [hdouble] at hthreshold
        cases hthreshold
        exact Number.zero_lt_toDouble hpositive hdouble

/-- Every group of the level has a guard, among its conditions or their sub-conditions. -/
def IsGuarded (conditions : List Condition) : Prop :=
  ∀ group ∈ groups conditions, ∃ condition ∈ compared group, condition.IsGuard

variable {metrics : SkillMetrics}

/-- A guard does not hold where there are no shares. -/
theorem IsGuard.evaluate {condition : Condition} (hguard : condition.IsGuard)
    (hvoid : metrics.HaveNoShares) : condition.evaluate metrics ≠ .ok true := by
  intro hholds
  obtain ⟨sum, hsum, hresult⟩ := Operand.value_of_voids hvoid hguard.metric
  obtain ⟨relation, hrelation, hasks⟩ : ∃ relation,
      Relation.ofSign? condition.operator = some relation ∧
        (relation = .atLeast ∨ relation = .above) := by
    rcases hguard.operator with hoperator | hoperator
    · exact ⟨.atLeast, by rw [hoperator]; rfl, .inl rfl⟩
    · exact ⟨.above, by rw [hoperator]; rfl, .inr rfl⟩
  rw [evaluate_of_relation hrelation hguard.metric2, hsum] at hholds
  cases hthreshold : Threshold.ofJson condition.value with
  | error failure =>
      rw [hthreshold] at hholds
      cases hholds
  | ok threshold =>
      rw [hthreshold] at hholds
      have htrue : relation.holds sum threshold.value = true := Except.ok.inj hholds
      obtain ⟨hreaches, hexceeds⟩ := hresult.not_reaches (hguard.value threshold hthreshold)
      rcases hasks with rfl | rfl
      · exact Bool.false_ne_true (hreaches.symm.trans htrue)
      · exact Bool.false_ne_true (hexceeds.symm.trans htrue)

/-- A level that is guarded is not reached where there are no shares. -/
theorem evaluateLevel_of_guarded {conditions : List Condition} (hguarded : IsGuarded conditions)
    (hvoid : metrics.HaveNoShares) : evaluateLevel metrics conditions ≠ .ok true := by
  intro hreached
  have hcompile : IsResult (Expression.compile conditions) := by
    unfold evaluateLevel at hreached
    cases hexpression : Expression.compile conditions with
    | ok expression => exact isResult_ok expression
    | error failure =>
        rw [hexpression] at hreached
        cases hreached
  rw [evaluateLevel_eq hcompile] at hreached
  obtain ⟨group, hgroup, hholds⟩ := exists_of_anyM hreached
  obtain ⟨guard, hmem, hguard⟩ := hguarded group hgroup
  exact hguard.evaluate hvoid (forall_compared_of_evaluateGroup hholds guard hmem)

end Condition

end SkillTiers
