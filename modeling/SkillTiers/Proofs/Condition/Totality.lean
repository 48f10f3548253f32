/-
# When conditions have an answer

Two things alone can keep a condition from an answer. A threshold that is an integer
beyond the range of doubles keeps it from being compiled, and no other threshold does
(`Expression.isResult_compile`). A sum of counts beyond that range keeps it from being
evaluated, if the sum has a percentage among its terms (`Expression.isResult_evaluate`):
without one, counts are added exactly, whatever their size.
-/

import SkillTiers.Condition.Expression
import SkillTiers.Proofs.Keyed
import SkillTiers.Proofs.Number.Range
import SkillTiers.Proofs.Outcome
import SkillTiers.Request.Bodies

namespace SkillTiers

/-! ### Counts among metrics -/

/-- The metrics have these counts. -/
structure WholeCounts.AreOf (whole : WholeCounts) (metrics : SkillMetrics) : Prop where
  high : metrics.highCount = .int whole.high
  medium : metrics.mediumCount = .int whole.medium
  low : metrics.lowCount = .int whole.low
  total : metrics.totalSubskills = .int whole.total

/-- The count that a name stands for; zero where it stands for a percentage. -/
def MetricName.count (whole : WholeCounts) : MetricName → Nat
  | .highCount => whole.high
  | .mediumCount => whole.medium
  | .lowCount => whole.low
  | .total => whole.total
  | _ => 0

namespace Term

/-- The count that the term names; zero where it names none. -/
def count (whole : WholeCounts) (term : Term) : Nat :=
  (term.name?.map (·.count whole)).getD 0

/-- Whether the term names a percentage. -/
def isPercentage (term : Term) : Bool :=
  term.name?.any MetricName.isPercentage

variable {whole : WholeCounts} {metrics : SkillMetrics}

/-- A term is a double if it names a percentage, and else its count. -/
theorem value_cases (hcounts : whole.AreOf metrics) (term : Term) :
    (term.isPercentage = true ∧ term.count whole = 0 ∧
        ∃ double, term.value metrics = .float double) ∨
      (term.isPercentage = false ∧ term.value metrics = .int (term.count whole)) := by
  unfold isPercentage count value
  cases term.name? with
  | none => exact .inr ⟨rfl, rfl⟩
  | some name =>
      cases name with
      | highCount => exact .inr ⟨rfl, hcounts.high⟩
      | mediumCount => exact .inr ⟨rfl, hcounts.medium⟩
      | lowCount => exact .inr ⟨rfl, hcounts.low⟩
      | total => exact .inr ⟨rfl, hcounts.total⟩
      | _ => exact .inl ⟨rfl, rfl, _, rfl⟩

end Term

/-! ### Sums -/

/-- A natural number below the limit has a nearest double. -/
theorem Number.toDouble_nat {value : Nat} (hvalue : value < rangeLimit) :
    ∃ double, (Number.int value).toDouble = .ok double := by
  rcases Number.toDouble_int_cases value with ⟨-, hdouble⟩ | ⟨hbig, -⟩
  · exact hdouble
  · rw [Int.natAbs_natCast] at hbig
    exact absurd hvalue (Nat.not_lt.mpr hbig)

namespace Operand

/-- The sum of the counts that the operand names. -/
def countSum (whole : WholeCounts) (operand : Operand) : Nat :=
  (operand.terms.map (·.count whole)).sum

/-- The sum of the counts is below the limit, if the operand names a percentage too. -/
def StaysInRange (whole : WholeCounts) (operand : Operand) : Prop :=
  operand.terms.any Term.isPercentage = true → operand.countSum whole < rangeLimit

variable {whole : WholeCounts} {metrics : SkillMetrics}

/-- The terms added to a number, from left to right. -/
private def addTo (metrics : SkillMetrics) (terms : List Term) (start : Number) :
    Except Overflow Number :=
  terms.foldlM (fun sum term => sum.add (term.value metrics)) start

/-- Counts alone are added exactly. -/
private theorem addTo_of_counts (hcounts : whole.AreOf metrics) {terms : List Term}
    (hnone : terms.any Term.isPercentage = false) (start : Nat) :
    ∃ sum, addTo metrics terms (.int start) = .ok sum := by
  induction terms generalizing start with
  | nil => exact ⟨_, rfl⟩
  | cons term rest ih =>
      rw [List.any_cons, Bool.or_eq_false_iff] at hnone
      rcases Term.value_cases hcounts term with ⟨hpercentage, -⟩ | ⟨-, hvalue⟩
      · rw [hnone.1] at hpercentage
        cases hpercentage
      · rw [addTo, List.foldlM_cons, hvalue]
        exact ih hnone.2 (start + term.count whole)

/-- With the sum of the counts below the limit every step has a result: an integer that
is added to a double is a part of that sum. -/
private theorem addTo_in_range (hcounts : whole.AreOf metrics) {terms : List Term}
    {start : Nat} {sum : Number} (hsum : sum = .int start ∨ ∃ double, sum = .float double)
    (hrange : start + (terms.map (·.count whole)).sum < rangeLimit) :
    ∃ result, addTo metrics terms sum = .ok result := by
  induction terms generalizing start sum with
  | nil => exact ⟨sum, rfl⟩
  | cons term rest ih =>
      rw [List.map_cons, List.sum_cons] at hrange
      have hrest : start + (rest.map (·.count whole)).sum < rangeLimit := by omega
      obtain ⟨startDouble, hstart⟩ := Number.toDouble_nat (by omega : start < rangeLimit)
      obtain ⟨countDouble, hcount⟩ :=
        Number.toDouble_nat (by omega : term.count whole < rangeLimit)
      rw [addTo, List.foldlM_cons]
      rcases Term.value_cases hcounts term with ⟨-, -, double, hvalue⟩ | ⟨-, hvalue⟩
      · rcases hsum with rfl | ⟨before, rfl⟩
        · have hadd : (Number.int start).add (.float double) =
              .ok (.float (startDouble.add double)) := by
            rw [Number.add_float, hstart]
            rfl
          rw [hvalue, hadd]
          exact ih (.inr ⟨_, rfl⟩) hrest
        · rw [hvalue]
          exact ih (.inr ⟨_, rfl⟩) hrest
      · rcases hsum with rfl | ⟨before, rfl⟩
        · have hadd : (Number.int start).add (.int (term.count whole)) =
              .ok (.int (start + term.count whole : Nat)) := rfl
          rw [hvalue, hadd]
          exact ih (.inl rfl) (by omega)
        · have hadd : (Number.float before).add (.int (term.count whole)) =
              .ok (.float (before.add countDouble)) := by
            rw [Number.float_add, hcount]
            rfl
          rw [hvalue, hadd]
          exact ih (.inr ⟨_, rfl⟩) hrest

theorem isResult_value (hcounts : whole.AreOf metrics) {operand : Operand}
    (hrange : operand.StaysInRange whole) : IsResult (operand.value metrics) := by
  have hsum : ∃ sum, addTo metrics operand.terms (.int (0 : Nat)) = .ok sum := by
    cases hany : operand.terms.any Term.isPercentage with
    | false => exact addTo_of_counts hcounts hany 0
    | true =>
        refine addTo_in_range hcounts (.inl rfl) ?_
        rw [Nat.zero_add]
        exact hrange hany
  obtain ⟨sum, hsum⟩ := hsum
  exact ⟨sum, congrArg Outcome.ofArithmetic hsum⟩

/-- A single name is no sum of counts and a percentage. -/
theorem single_staysInRange (whole : WholeCounts) (text : String) :
    (single text).StaysInRange whole := by
  intro hany
  have hpercentage : (Term.parse text).isPercentage = true := by
    simpa [single] using hany
  have hcount : (Term.parse text).count whole = 0 := by
    unfold Term.isPercentage at hpercentage
    unfold Term.count
    cases hname : (Term.parse text).name? with
    | none => rfl
    | some name =>
        rw [hname] at hpercentage
        cases name <;> first | rfl | cases hpercentage
  have hlimit : 0 < rangeLimit := Nat.mul_pos (by decide) (Nat.two_pow_pos topPlaces)
  simpa [countSum, single, hcount] using hlimit

end Operand

/-! ### Comparisons and expressions -/

/-- The operand on the right, if there is one, stays in range. -/
def RightSide.StaysInRange (whole : WholeCounts) : RightSide → Prop
  | .metric operand => operand.StaysInRange whole
  | .constant _ => True

/-- Both sides stay in range. -/
structure Comparison.StaysInRange (whole : WholeCounts) (comparison : Comparison) : Prop where
  left : comparison.left.StaysInRange whole
  right : comparison.right.StaysInRange whole

/-- A comparison of a condition stays in range if its left side does: on the right there is a
single name at most. -/
theorem Comparison.staysInRange_of_left {whole : WholeCounts} {condition : Condition}
    {comparison : Comparison} (hcomparison : Comparison.ofCondition condition = .ok comparison)
    (hleft : (Operand.parse (condition.metric.getD "")).StaysInRange whole) :
    comparison.StaysInRange whole := by
  obtain ⟨right, hright, rfl⟩ := map_ok hcomparison
  refine ⟨hleft, ?_⟩
  obtain ⟨name, -, rfl⟩ | ⟨-, threshold, -, rfl⟩ := rightSide_ok hright
  · exact Operand.single_staysInRange whole name
  · trivial

/-- All comparisons of an expression. -/
def Expression.comparisons (expression : Expression) : List Comparison :=
  expression.groups.flatMap fun group =>
    group.members.flatMap fun member => member.comparison :: member.along

section Evaluation

variable {whole : WholeCounts} {metrics : SkillMetrics}

theorem Comparison.isResult_evaluate (hcounts : whole.AreOf metrics) {comparison : Comparison}
    (hrange : comparison.StaysInRange whole) : IsResult (comparison.evaluate metrics) := by
  have hright : IsResult (comparison.right.value metrics) := by
    have hstays := hrange.right
    cases hside : comparison.right with
    | metric operand =>
        rw [hside] at hstays
        exact Operand.isResult_value hcounts hstays
    | constant threshold => exact isResult_ok _
  unfold Comparison.evaluate
  cases comparison.relation? with
  | none => exact isResult_ok false
  | some relation =>
      exact (Operand.isResult_value hcounts hrange.left).bind fun left _ =>
        (isResult_map (relation.holds left) _).mpr hright

/-- An expression has an answer if its comparisons stay in range. -/
theorem Expression.isResult_evaluate (hcounts : whole.AreOf metrics) {expression : Expression}
    (hrange : ∀ comparison ∈ expression.comparisons, comparison.StaysInRange whole) :
    IsResult (expression.evaluate metrics) := by
  have hmember (group : AndGroup) (hgroup : group ∈ expression.groups)
      (member : GroupedComparison) (hmember : member ∈ group.members)
      (comparison : Comparison) (hcomparison : comparison ∈ member.comparison :: member.along) :
      IsResult (comparison.evaluate metrics) :=
    Comparison.isResult_evaluate hcounts (hrange comparison
      (List.mem_flatMap.mpr ⟨group, hgroup, List.mem_flatMap.mpr ⟨member, hmember, hcomparison⟩⟩))
  refine isResult_anyM fun group hgroup => isResult_allM fun member hin => ?_
  refine (hmember group hgroup member hin _ List.mem_cons_self).bind fun holds _ => ?_
  cases holds with
  | false => exact isResult_ok false
  | true =>
      exact isResult_allM fun along halong =>
        hmember group hgroup member hin along (List.mem_cons_of_mem _ halong)

end Evaluation

/-! ### Thresholds -/

/-- If the threshold is an integer, it is one below the limit. A condition with another
metric has no threshold. -/
def Condition.HasThresholdInRange (condition : Condition) : Prop :=
  condition.otherMetric? = none → ∀ value : Int, condition.value = .number (.int value) →
    value.natAbs < rangeLimit

/-- The conditions that are compared: each with its sub-conditions. -/
def Condition.compared (conditions : List Condition) : List Condition :=
  conditions.flatMap fun condition => condition :: condition.subConditions

theorem Threshold.isResult_ofJson (value : Json) :
    IsResult (Threshold.ofJson value) ↔
      ∀ number : Int, value = .number (.int number) → number.natAbs < rangeLimit := by
  cases value with
  | number value =>
      cases value with
      | float value => exact iff_of_true (isResult_ok _) (fun _ h => by cases h)
      | int number =>
          rcases Number.toDouble_int_cases number with ⟨hsmall, double, hdouble⟩ | ⟨hbig, hdouble⟩
          · refine iff_of_true ?_ ?_
            · rw [ofJson, hdouble]
              exact isResult_ok _
            · rintro _ ⟨⟩
              exact hsmall
          · refine iff_of_false ?_ fun h => Nat.not_lt.mpr hbig (h number rfl)
            rw [ofJson, hdouble]
            exact not_isResult_error _
  | _ => exact iff_of_true (isResult_ok _) (fun _ h => by cases h)

namespace Condition

theorem isResult_comparison (condition : Condition) :
    IsResult (Comparison.ofCondition condition) ↔ condition.HasThresholdInRange := by
  refine (isResult_map _ _).trans ?_
  unfold HasThresholdInRange
  cases hother : condition.otherMetric? with
  | some name =>
      rw [Comparison.rightSide_of_metric hother]
      exact iff_of_true (isResult_ok _) nofun
  | none =>
      rw [Comparison.rightSide_of_threshold hother]
      refine (isResult_map _ _).trans ((Threshold.isResult_ofJson condition.value).trans ?_)
      exact ⟨fun h _ => h, fun h => h rfl⟩

/-- The groups hold the conditions, in order. -/
theorem flatten_groups (conditions : List Condition) :
    (groups conditions).flatten = conditions := by
  induction conditions with
  | nil => rfl
  | cons condition rest ih =>
      rw [groups]
      split
      · rw [List.flatten_cons, ih]
        rfl
      · cases hrest : groups rest with
        | nil =>
            rw [hrest] at ih
            rw [← ih]
            rfl
        | cons group others =>
            rw [hrest] at ih
            rw [← ih]
            rfl

end Condition

namespace Expression

/-- Conditions compile if and only if the thresholds that are compared are in range. -/
theorem isResult_compile (conditions : List Condition) :
    IsResult (compile conditions) ↔
      ∀ condition ∈ Condition.compared conditions, condition.HasThresholdInRange := by
  have hgrouped (condition : Condition) : IsResult (GroupedComparison.ofCondition condition) ↔
      ∀ other ∈ condition :: condition.subConditions, other.HasThresholdInRange := by
    refine (isResult_map₂ GroupedComparison.mk _ _).trans ?_
    rw [isResult_mapM, Condition.isResult_comparison, List.forall_mem_cons]
    simp only [Condition.isResult_comparison]
  have hgroup (group : List Condition) :
      IsResult (do return AndGroup.mk (← group.mapM GroupedComparison.ofCondition)) ↔
        ∀ condition ∈ group, ∀ other ∈ condition :: condition.subConditions,
          other.HasThresholdInRange := by
    rw [isResult_map, isResult_mapM]
    simp only [hgrouped]
  unfold compile
  rw [isResult_map, isResult_mapM]
  simp only [hgroup]
  conv_rhs => rw [← Condition.flatten_groups conditions]
  simp only [Condition.compared, List.mem_flatMap, List.mem_flatten]
  constructor
  · rintro h other ⟨condition, ⟨group, hmem, hcondition⟩, hother⟩
    exact h group hmem condition hcondition other hother
  · intro h group hmem condition hcondition other hother
    exact h other ⟨condition, ⟨group, hmem, hcondition⟩, hother⟩

/-- Each comparison of a compiled expression is that of a condition. -/
theorem exists_condition {conditions : List Condition} {expression : Expression}
    (hcompile : compile conditions = .ok expression) {comparison : Comparison}
    (hmem : comparison ∈ expression.comparisons) :
    ∃ condition ∈ Condition.compared conditions,
      Comparison.ofCondition condition = .ok comparison := by
  obtain ⟨group, hgroup, hmem⟩ := List.mem_flatMap.mp hmem
  obtain ⟨member, hmember, hmem⟩ := List.mem_flatMap.mp hmem
  obtain ⟨groups, hgroups, rfl⟩ := map_ok hcompile
  obtain ⟨inGroup, hinGroup, hgroup⟩ := exists_of_mem_forall₂ (forall₂_of_mapM hgroups) hgroup
  obtain ⟨members, hmembers, rfl⟩ := map_ok hgroup
  obtain ⟨condition, hcondition, hmember⟩ :=
    exists_of_mem_forall₂ (forall₂_of_mapM hmembers) hmember
  obtain ⟨own, along, hown, halong, rfl⟩ := map₂_ok hmember
  have hin : condition ∈ conditions := by
    rw [← Condition.flatten_groups conditions]
    exact List.mem_flatten.mpr ⟨inGroup, hinGroup, hcondition⟩
  rcases List.mem_cons.mp hmem with rfl | hsub
  · exact ⟨condition, List.mem_flatMap.mpr ⟨condition, hin, List.mem_cons_self⟩, hown⟩
  · obtain ⟨sub, hsub, hcomparison⟩ := exists_of_mem_forall₂ (forall₂_of_mapM halong) hsub
    exact ⟨sub, List.mem_flatMap.mpr ⟨condition, hin, List.mem_cons_of_mem _ hsub⟩, hcomparison⟩

end Expression

end SkillTiers
