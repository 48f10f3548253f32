/-
# The metrics that conditions mention

A condition reads the metrics that it mentions, on its left side and as its other metric, and
no others. So its answer is the same for all metrics that agree on these, whether it holds,
does not hold or fails (`Condition.evaluate_congr`), and so is that of a level whose
conditions and sub-conditions mention nothing else (`Condition.evaluateLevel_congr`).
-/

import SkillTiers.Proofs.Condition.Segments

namespace SkillTiers

variable {metrics metrics' : SkillMetrics}

/-- Both metrics have the same value under each of the names. -/
def SkillMetrics.AgreeOn (metrics metrics' : SkillMetrics) (names : List MetricName) : Prop :=
  ∀ name ∈ names, name.value metrics = name.value metrics'

/-- The metrics that an operand names. What it names besides is unknown. -/
def Operand.mentioned (operand : Operand) : List MetricName :=
  operand.terms.filterMap Term.name?

namespace Condition

/-- The metrics that a condition names for its own comparison. -/
def mentioned (condition : Condition) : List MetricName :=
  (Operand.parse (condition.metric.getD "")).mentioned ++
    condition.otherMetric?.elim [] fun name => (Operand.single name).mentioned

/-- The metrics that are named in a level. -/
def mentionedIn (conditions : List Condition) : List MetricName :=
  (compared conditions).flatMap mentioned

end Condition

/-! ### What is not mentioned is not read -/

theorem Term.value_congr {term : Term}
    (hagree : ∀ name ∈ term.name?, name.value metrics = name.value metrics') :
    term.value metrics = term.value metrics' := by
  unfold value
  cases hname : term.name? with
  | none => rfl
  | some name => exact hagree name hname

/-- An operand is worked out from the values of its terms. -/
theorem Operand.value_eq_foldlM (operand : Operand) (metrics : SkillMetrics) :
    operand.value metrics =
      .ofArithmetic ((operand.terms.map (·.value metrics)).foldlM Number.add 0) := by
  rw [List.foldlM_map]
  rfl

theorem Operand.value_congr {operand : Operand}
    (hagree : metrics.AgreeOn metrics' operand.mentioned) :
    operand.value metrics = operand.value metrics' := by
  have hterms : operand.terms.map (·.value metrics) = operand.terms.map (·.value metrics') :=
    List.map_congr_left fun term hterm => Term.value_congr fun name hname =>
      hagree name (List.mem_filterMap.mpr ⟨term, hterm, hname⟩)
  rw [value_eq_foldlM, value_eq_foldlM, hterms]

namespace Condition

variable {condition : Condition} {conditions : List Condition}

/-- A condition without another metric compares its left side with its threshold. -/
theorem evaluate_of_relation {relation : Relation}
    (hrelation : Relation.ofSign? condition.operator = some relation)
    (hmetric2 : condition.otherMetric? = none) :
    condition.evaluate metrics = do
      let threshold ← Threshold.ofJson condition.value
      let left ← (Operand.parse (condition.metric.getD "")).value metrics
      return relation.holds left threshold.value := by
  rw [Condition.evaluate, Comparison.ofCondition, Comparison.rightSide_of_threshold hmetric2]
  cases Threshold.ofJson condition.value with
  | error failure => rfl
  | ok threshold =>
      change Comparison.evaluate metrics _ = _
      rw [Comparison.evaluate, Comparison.relation?, hrelation]
      rfl

/-- A condition has one answer for metrics that agree on what it mentions. -/
theorem evaluate_congr (hagree : metrics.AgreeOn metrics' condition.mentioned) :
    condition.evaluate metrics = condition.evaluate metrics' := by
  obtain ⟨hleft, hright⟩ := List.forall_mem_append.mp hagree
  unfold Condition.evaluate Comparison.ofCondition
  cases hside : Comparison.rightSide condition with
  | error failure => rfl
  | ok right =>
      have hvalue : right.value metrics = right.value metrics' := by
        obtain ⟨name, hother, rfl⟩ | ⟨-, threshold, -, rfl⟩ := Comparison.rightSide_ok hside
        · rw [hother] at hright
          exact Operand.value_congr hright
        · rfl
      change Comparison.evaluate metrics _ = Comparison.evaluate metrics' _
      unfold Comparison.evaluate
      dsimp only
      rw [Operand.value_congr hleft, hvalue]

/-- So has a level. -/
theorem evaluateLevel_congr (hagree : metrics.AgreeOn metrics' (mentionedIn conditions)) :
    evaluateLevel metrics conditions = evaluateLevel metrics' conditions := by
  have heach : ∀ condition ∈ compared conditions,
      condition.evaluate metrics = condition.evaluate metrics' :=
    fun condition hmem => evaluate_congr fun name hname =>
      hagree name (List.mem_flatMap.mpr ⟨condition, hmem, hname⟩)
  have hthroughout (group : List Condition) (hgroup : group ∈ groups conditions)
      (condition : Condition) (hmem : condition ∈ group) :
      condition.evaluateThroughout metrics = condition.evaluateThroughout metrics' := by
    unfold evaluateThroughout
    refine allM_forall₂ (List.forall₂_same.mpr fun other hother => heach other ?_)
    refine List.mem_flatMap.mpr ⟨condition, ?_, hother⟩
    rw [← flatten_groups conditions]
    exact List.mem_flatten.mpr ⟨group, hgroup, hmem⟩
  cases hcompile : Expression.compile conditions with
  | ok expression =>
      rw [evaluateLevel_eq ⟨expression, hcompile⟩, evaluateLevel_eq ⟨expression, hcompile⟩]
      refine anyM_forall₂ (List.forall₂_same.mpr fun group hgroup => ?_)
      exact allM_forall₂ (List.forall₂_same.mpr (hthroughout group hgroup))
  | error failure =>
      have hfails (metrics : SkillMetrics) :
          evaluateLevel metrics conditions = .error failure := by
        rw [evaluateLevel, hcompile]
        rfl
      rw [hfails, hfails]

end Condition

end SkillTiers
