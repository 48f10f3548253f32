/-
# Conditions on shares that are undefined

Where there is no total, the shares are undefined if the policy says so. An undefined term
makes a sum undefined, wherever it stands and whatever is added before and after
(`Number.foldlM_add_undefined`), and an undefined number stands in no relation, on neither side.
So a condition that names a share does not hold, whatever it asks for, and nor does a group
that such a condition or sub-condition is in (`Condition.evaluate_undefined_shares`).
-/

import SkillTiers.Proofs.Condition.Mentioned
import SkillTiers.Proofs.Rule.Totality
import SkillTiers.Proofs.Share

namespace SkillTiers

-- A power is the one of the core library, whatever else is imported.
attribute [local instance (high)] instPowNat

/-! ### The undefined number -/

namespace Number

variable {x y sum : Number}

/-- What is added to the undefined number does not define it. -/
theorem undefined_add (hsum : (Number.float .nan).add y = .ok sum) : sum = .float .nan := by
  rw [float_add] at hsum
  cases hdouble : y.toDouble with
  | error cause =>
      rw [hdouble] at hsum
      cases hsum
  | ok double =>
      rw [hdouble] at hsum
      exact (Except.ok.inj hsum).symm

/-- The undefined number leaves nothing defined that it is added to. -/
theorem add_undefined (hsum : x.add (.float .nan) = .ok sum) : sum = .float .nan := by
  rw [add_float] at hsum
  cases hdouble : x.toDouble with
  | error cause =>
      rw [hdouble] at hsum
      cases hsum
  | ok double =>
      rw [hdouble] at hsum
      have hnan : double.add .nan = .nan := by
        cases double <;> rfl
      exact (Except.ok.inj hsum).symm.trans (congrArg Number.float hnan)

/-- A sum is undefined from the first undefined term on. -/
theorem foldlM_add_undefined {values : List Number} {start : Number}
    (hundefined : start = .float .nan ∨ .float .nan ∈ values)
    (hsum : values.foldlM add start = .ok sum) : sum = .float .nan := by
  induction values generalizing start with
  | nil =>
      rcases hundefined with rfl | hmem
      · exact (Except.ok.inj hsum).symm
      · cases hmem
  | cons value rest ih =>
      rw [List.foldlM_cons] at hsum
      cases hadd : start.add value with
      | error cause =>
          rw [hadd] at hsum
          cases hsum
      | ok next =>
          rw [hadd] at hsum
          refine ih ?_ hsum
          rcases hundefined with rfl | hmem
          · exact .inl (undefined_add hadd)
          · rcases List.mem_cons.mp hmem with rfl | hlater
            · exact .inl (add_undefined hadd)
            · exact .inr hlater

end Number

/-- No relation holds of the undefined number. -/
theorem Relation.not_holds_undefined (relation : Relation) (x : Number) :
    relation.holds (.float .nan) x = false ∧ relation.holds x (.float .nan) = false := by
  have hleft (test : Place → Place → Bool) : Number.related test (.float .nan) x = false := rfl
  have hright (test : Place → Place → Bool) : Number.related test x (.float .nan) = false := by
    unfold Number.related
    cases x.place? <;> rfl
  cases relation <;>
    simp only [Relation.holds, Number.le, Number.lt, Number.same, hleft, hright, and_self]

/-! ### Shares without a total -/

/-- Among the metrics no share is defined. -/
def SkillMetrics.SharesUndefined (metrics : SkillMetrics) : Prop :=
  ∀ name : MetricName, name.isPercentage = true → name.value metrics = .float .nan

/-- Without a total the shares are undefined, if the policy leaves them so. -/
theorem WholeCounts.sharesUndefined {whole : WholeCounts} {metrics : SkillMetrics}
    (hmetrics : whole.toCounts.metrics .nan = .ok metrics) (htotal : whole.total = 0) :
    metrics.SharesUndefined := by
  intro name hname
  obtain ⟨percent, hpercent, hvalue⟩ := percentage_of_metrics hmetrics hname
  rw [htotal, percentage_of_nothing] at hpercent
  rw [hvalue, ← Except.ok.inj hpercent]
  rfl

/-- The operand names a share, wherever it stands among its terms. -/
def Operand.NamesShare (operand : Operand) : Prop :=
  ∃ name ∈ operand.mentioned, name.isPercentage = true

/-- A sum with an undefined share in it is undefined. -/
theorem Operand.NamesShare.value {operand : Operand} (hnames : operand.NamesShare)
    {metrics : SkillMetrics} (hundefined : metrics.SharesUndefined) {sum : Number}
    (hsum : operand.value metrics = .ok sum) : sum = .float .nan := by
  obtain ⟨name, hname, hshare⟩ := hnames
  obtain ⟨term, hterm, hnamed⟩ := List.mem_filterMap.mp hname
  have hvalue : term.value metrics = .float .nan := by
    rw [Term.value, hnamed]
    exact hundefined name hshare
  have hmem : .float .nan ∈ operand.terms.map (·.value metrics) :=
    List.mem_map.mpr ⟨term, hterm, hvalue⟩
  rw [value_eq_foldlM] at hsum
  cases hfold : (operand.terms.map (·.value metrics)).foldlM Number.add 0 with
  | error cause =>
      rw [hfold] at hsum
      cases hsum
  | ok result =>
      rw [hfold] at hsum
      rw [← Except.ok.inj hsum]
      exact Number.foldlM_add_undefined (.inr hmem) hfold

/-! ### Conditions that name a share -/

namespace Condition

/-- The condition names a share: among the terms on its left side, or as its other metric. -/
def NamesShare (condition : Condition) : Prop :=
  (Operand.parse (condition.metric.getD "")).NamesShare ∨
    ∃ name, condition.otherMetric? = some name ∧ (Operand.single name).NamesShare

variable {metrics : SkillMetrics}

/-- A condition that names an undefined share does not hold, if it has an answer. -/
theorem NamesShare.evaluate {condition : Condition} (hnames : condition.NamesShare)
    (hundefined : metrics.SharesUndefined) {holds : Bool}
    (hholds : condition.evaluate metrics = .ok holds) : holds = false := by
  cases hcomparison : Comparison.ofCondition condition with
  | error failure =>
      rw [Condition.evaluate, hcomparison] at hholds
      cases hholds
  | ok comparison =>
      rw [evaluate_of_comparison hcomparison, Comparison.evaluate] at hholds
      obtain ⟨side, hside, rfl⟩ := map_ok hcomparison
      cases hrelation : Comparison.relation? ⟨_, condition.operator, side⟩ with
      | none =>
          rw [hrelation] at hholds
          exact (Except.ok.inj hholds).symm
      | some relation =>
          rw [hrelation] at hholds
          obtain ⟨left, right, hleft, hright, rfl⟩ := map₂_ok hholds
          rcases hnames with hshare | ⟨name, hname, hshare⟩
          · rw [hshare.value hundefined hleft]
            exact (relation.not_holds_undefined right).1
          · cases (Comparison.rightSide_of_metric hname).symm.trans hside
            rw [hshare.value hundefined hright]
            exact (relation.not_holds_undefined left).2

/-- Nor does a group that such a condition is in, or such a sub-condition. -/
theorem evaluate_group_of_namesShare {group : List Condition} {compiled : AndGroup}
    (hcompiled : (do return AndGroup.mk (← group.mapM GroupedComparison.ofCondition)) =
      (.ok compiled : Outcome AndGroup))
    (hnames : ∃ condition ∈ compared group, condition.NamesShare)
    (hundefined : metrics.SharesUndefined) {holds : Bool}
    (hholds : compiled.evaluate metrics = .ok holds) : holds = false := by
  obtain ⟨condition, hmem, hshare⟩ := hnames
  rw [← AndGroup.evaluate_eq hcompiled] at hholds
  cases holds with
  | false => rfl
  | true =>
      exact hshare.evaluate hundefined (forall_compared_of_evaluateGroup hholds condition hmem)

end Condition

/-! ### Answers for counts up to 2^1000 -/

/-- A sum of fewer than 2^24 terms is in range, if the counts are not above 2^1000. -/
theorem Operand.staysInRange_of_length {whole : WholeCounts}
    (hcounts : whole.AtMost (2 ^ (1000 : Nat))) {operand : Operand}
    (hlength : operand.terms.length < 2 ^ (24 : Nat)) : operand.StaysInRange whole := by
  intro _
  have hplaces : 1000 = 30 + topPlaces := by
    unfold topPlaces
    rfl
  rw [hplaces, Nat.pow_add] at hcounts
  calc operand.countSum whole
      ≤ operand.terms.length * (2 ^ (30 : Nat) * 2 ^ topPlaces) := countSum_le hcounts operand
    _ = operand.terms.length * 2 ^ (30 : Nat) * 2 ^ topPlaces := (Nat.mul_assoc _ _ _).symm
    _ < (2 ^ (54 : Nat) - 1) * 2 ^ topPlaces :=
      Nat.mul_lt_mul_of_pos_right (by omega) (Nat.two_pow_pos topPlaces)

namespace Condition

variable {whole : WholeCounts} {metrics : SkillMetrics}

/-- The condition has no threshold out of range, and fewer than 2^24 terms on its left side. -/
structure IsModest (condition : Condition) : Prop where
  threshold : condition.HasThresholdInRange
  terms : (Operand.parse (condition.metric.getD "")).terms.length < 2 ^ (24 : Nat)

theorem IsModest.isResult_evaluate {condition : Condition} (hmodest : condition.IsModest)
    (hcounts : whole.AtMost (2 ^ (1000 : Nat))) (hareOf : whole.AreOf metrics) :
    IsResult (condition.evaluate metrics) := by
  obtain ⟨comparison, hcomparison⟩ := (isResult_comparison condition).mpr hmodest.threshold
  rw [evaluate_of_comparison hcomparison]
  exact Comparison.isResult_evaluate hareOf (Comparison.staysInRange_of_left hcomparison
    (Operand.staysInRange_of_length hcounts hmodest.terms))

theorem isResult_evaluateGroup {group : List Condition}
    (hanswers : ∀ condition ∈ compared group, IsResult (condition.evaluate metrics)) :
    IsResult (evaluateGroup metrics group) :=
  isResult_allM fun condition hmem =>
    isResult_allM (List.forall_mem_flatMap.mp hanswers condition hmem)

/-- Where there is no total and the shares are left undefined, a condition that names a share
does not hold, whatever it asks for and whatever else it names, and it has an answer unless its
threshold or a sum is out of range. Nor does a group hold that such a condition or
sub-condition is in. -/
theorem evaluate_undefined_shares (hcounts : whole.AtMost (2 ^ (1000 : Nat)))
    (htotal : whole.total = 0) :
    ∃ metrics, whole.toCounts.metrics .nan = .ok metrics ∧
      (∀ condition : Condition, condition.NamesShare →
        (∀ holds, condition.evaluate metrics = .ok holds → holds = false) ∧
          (condition.IsModest → condition.evaluate metrics = .ok false)) ∧
      ∀ conditions expression, Expression.compile conditions = .ok expression →
        List.Forall₂ (fun group compiled =>
          (∃ condition ∈ compared group, condition.NamesShare) →
            (∀ holds, AndGroup.evaluate metrics compiled = .ok holds → holds = false) ∧
              ((∀ condition ∈ compared group, condition.IsModest) →
                compiled.evaluate metrics = .ok false))
          (groups conditions) expression.groups := by
  obtain ⟨metrics, hmetrics⟩ := (WholeCounts.isResult_metrics .nan whole).mpr fun hpositive =>
    absurd htotal (Nat.ne_of_gt hpositive)
  have hareOf := WholeCounts.areOf_metrics hmetrics
  have hundefined := WholeCounts.sharesUndefined hmetrics htotal
  refine ⟨metrics, hmetrics, fun condition hnames => ?_, fun conditions expression hcompile => ?_⟩
  · have hfalse (holds : Bool) (hholds : condition.evaluate metrics = .ok holds) :
        holds = false := hnames.evaluate hundefined hholds
    refine ⟨hfalse, fun hmodest => ?_⟩
    obtain ⟨holds, hholds⟩ := hmodest.isResult_evaluate hcounts hareOf
    rw [hholds, hfalse holds hholds]
  · obtain ⟨compiled, hgroups, rfl⟩ := map_ok hcompile
    refine (forall₂_of_mapM hgroups).imp fun group compiled hcompiled hnames => ?_
    have hfalse (holds : Bool) (hholds : compiled.evaluate metrics = .ok holds) :
        holds = false := evaluate_group_of_namesShare hcompiled hnames hundefined hholds
    refine ⟨hfalse, fun hmodest => ?_⟩
    obtain ⟨holds, hholds⟩ := isResult_evaluateGroup fun condition hmem =>
      (hmodest condition hmem).isResult_evaluate hcounts hareOf
    rw [AndGroup.evaluate_eq hcompiled] at hholds
    rw [hholds, hfalse holds hholds]

/-- A sum of a count, an unknown name and a share that is to reach zero. -/
def hopefulSum : Condition :=
  ⟨some "highCount + stars + low%", some ">=", .null, none, some "AND", [], none⟩

/-- One group. A share is named on the left of the first condition, and on the right of the
sub-condition of the second. -/
def hopeful : List Condition :=
  [hopefulSum, ⟨some "highCount", some ">", .string "1", none, none,
    [comparing "lowCount" "<" " highPercent " none []], none⟩]

/-- Many high ratings in no total do not help. -/
theorem evaluate_undefined_shares_hopeful :
    (WholeCounts.mk (2 ^ (200 : Nat)) 0 0 0).AtMost (2 ^ (1000 : Nat)) ∧
      hopefulSum.NamesShare ∧ (∀ condition ∈ compared hopeful, condition.IsModest) ∧
      ∃ metrics expression compiled,
        (WholeCounts.mk (2 ^ (200 : Nat)) 0 0 0).toCounts.metrics .nan = .ok metrics ∧
          hopefulSum.evaluate metrics = .ok false ∧
          Expression.compile hopeful = .ok expression ∧ expression.groups = [compiled] ∧
          compiled.evaluate metrics = .ok false := by
  have hcounts : (WholeCounts.mk (2 ^ (200 : Nat)) 0 0 0).AtMost (2 ^ (1000 : Nat)) := by
    have hpower (places : Nat) (hplaces : 200 ≤ places) : 2 ^ (200 : Nat) ≤ 2 ^ places :=
      Nat.pow_le_pow_right (by decide) hplaces
    simp only [WholeCounts.AtMost, List.forall_mem_cons, Nat.zero_le, true_and]
    exact ⟨hpower 1000 (by decide), List.forall_mem_nil _⟩
  have hnames : hopefulSum.NamesShare := .inl ⟨.lowPercent, by decide +kernel, rfl⟩
  have hmodest : ∀ condition ∈ compared hopeful, condition.IsModest := by
    have hcompared : compared hopeful = hopefulSum :: _ :: _ :: [] := rfl
    rw [hcompared]
    simp only [List.forall_mem_cons]
    refine ⟨⟨?_, by decide +kernel⟩, ⟨?_, by decide +kernel⟩, ⟨?_, by decide +kernel⟩,
      List.forall_mem_nil _⟩
    all_goals
      -- No threshold here is an integer.
      intro _ _ hvalue
      cases hvalue
  have hgroups : groups hopeful = [hopeful] := rfl
  obtain ⟨expression, hcompile⟩ := (Expression.isResult_compile hopeful).mpr
    fun condition hmem => (hmodest condition hmem).threshold
  obtain ⟨metrics, hmetrics, hconditions, hlevels⟩ := evaluate_undefined_shares hcounts rfl
  have hall := hlevels hopeful expression hcompile
  rw [hgroups] at hall
  obtain ⟨compiled, others, hgroup, hnone, hexpression⟩ := List.forall₂_cons_left_iff.mp hall
  cases hnone
  exact ⟨hcounts, hnames, hmodest, metrics, expression, compiled, hmetrics,
    (hconditions hopefulSum hnames).2 (hmodest hopefulSum List.mem_cons_self), hcompile,
    hexpression, (hgroup ⟨hopefulSum, List.mem_cons_self, hnames⟩).2 hmodest⟩

end Condition

end SkillTiers
