/-
# The tiers of the seed rules

The seed rules look at the shares of the three ratings and, for the intermediate tier, at the
sum of the upper two. What they ask for comes down to a few bounds on these: a group of three
conditions for the intermediate tier adds nothing to the other one, for it asks for shares
that make up the whole, and these meet the bounds of the other group
(`AllRated.isIntermediate_of_firstGroup`). So the tier of ratings is known from their
shares (`Engine.classify_seed`).
-/

import SkillTiers.Proofs.Condition.WholePercentage
import SkillTiers.Proofs.Number.Nearest
import SkillTiers.Proofs.Rule.Priority
import SkillTiers.Rule.Seed

namespace SkillTiers

-- A power is the one of the core library, whatever else is imported.
attribute [local instance (high)] instPowNat

/-- The share of the subskills with the rating. -/
def Rating.metric : Rating → MetricName
  | .high => .highPercent
  | .medium => .mediumPercent
  | .low => .lowPercent

namespace WholeCounts

/-- How many subskills have the rating. -/
def countOf (whole : WholeCounts) : Rating → Nat
  | .high => whole.high
  | .medium => whole.medium
  | .low => whole.low

/-- The share of a rating in units, as it is rounded. -/
def share (whole : WholeCounts) (rating : Rating) : Nat :=
  roundUnits (unitsPerOne * (whole.countOf rating * 100)) whole.total

/-- The shares of the upper two ratings together, as their sum is rounded. -/
def upperShare (whole : WholeCounts) : Nat :=
  roundUnits (whole.share .high + whole.share .medium) 1

/-- Each subskill of the total has one rating, and there is a subskill. -/
structure AllRated (whole : WholeCounts) : Prop where
  sum : whole.high + whole.medium + whole.low = whole.total
  pos : 0 < whole.total

/-! ### Shares -/

section Shares

variable {whole : WholeCounts} {rating : Rating} {percent : Nat}

theorem AllRated.countOf_le (hall : whole.AllRated) (rating : Rating) :
    whole.countOf rating ≤ whole.total := by
  have hsum := hall.sum
  cases rating <;> simp only [countOf] <;> omega

/-- A quotient up to a whole percentage has a share up to it. -/
theorem share_le (hpos : 0 < whole.total) (hpercent : percent < 2 ^ (53 : Nat))
    (hle : 100 * whole.countOf rating ≤ percent * whole.total) :
    whole.share rating ≤ unitsPerOne * percent := by
  obtain ⟨bound, -, hunits⟩ := Number.toDouble_nat_small hpercent
  rw [← hunits]
  apply roundUnits_le_units hpos bound.onGrid
  rw [hunits, Nat.mul_assoc, Nat.mul_comm _ 100]
  exact Nat.mul_le_mul_left _ hle

theorem AllRated.share_le_hundred (hall : whole.AllRated) (rating : Rating) :
    whole.share rating ≤ unitsPerOne * 100 :=
  share_le hall.pos (by decide) (Nat.mul_le_mul_left 100 (hall.countOf_le rating))

/-- A share that reaches a whole percentage comes from a quotient that is not a percent below
it. -/
theorem lt_of_le_share (hpos : 0 < whole.total) (hpercent : percent < 2 ^ (53 : Nat))
    (hle : unitsPerOne * percent ≤ whole.share rating) :
    percent * whole.total < 100 * whole.countOf rating + whole.total := by
  by_contra hnot
  rcases Nat.eq_zero_or_pos percent with rfl | hsome
  · omega
  · have hbelow : 100 * whole.countOf rating ≤ (percent - 1) * whole.total := by
      rw [Nat.sub_mul]
      omega
    have hshare := share_le hpos (by omega) hbelow
    have hless : unitsPerOne * (percent - 1) < unitsPerOne * percent :=
      Nat.mul_lt_mul_of_pos_left (by omega) unitsPerOne_pos
    omega

/-- The sum of the upper shares is a magnitude. -/
theorem AllRated.exists_upper (hall : whole.AllRated) :
    ∃ size : Magnitude, Magnitude.round? (whole.share .high + whole.share .medium) 1 = some size ∧
      size.units = whole.upperShare := by
  obtain ⟨bound, -, hunits⟩ := @Number.toDouble_nat_small 200 (by decide)
  have hhigh := hall.share_le_hundred .high
  have hmedium := hall.share_le_hundred .medium
  obtain ⟨size, hround, hsize, -⟩ := Magnitude.round?_of_le Nat.one_pos bound
    (by omega : whole.share .high + whole.share .medium ≤ bound.units * 1)
  exact ⟨size, hround, hsize⟩

/-- The sum reaches what one of the shares reaches. -/
theorem le_upperShare (hpercent : percent < 2 ^ (53 : Nat))
    (hle : unitsPerOne * percent ≤ whole.share .medium) :
    unitsPerOne * percent ≤ whole.upperShare := by
  obtain ⟨bound, -, hunits⟩ := Number.toDouble_nat_small hpercent
  rw [← hunits] at hle ⊢
  apply units_le_roundUnits Nat.one_pos bound.onGrid
  omega

end Shares

end WholeCounts

/-! ### Conditions on shares -/

/-- The percentages among the metrics are the shares of the counts. -/
def SkillMetrics.HaveShares (metrics : SkillMetrics) (whole : WholeCounts) : Prop :=
  ∀ rating : Rating, ∃ size : Magnitude,
    rating.metric.value metrics = .float (.finite false size) ∧ size.units = whole.share rating

/-- Where each subskill has a rating, there are metrics, with these shares. -/
theorem WholeCounts.AllRated.exists_metrics {whole : WholeCounts} (hall : whole.AllRated)
    (policy : ZeroTotalPolicy) :
    ∃ metrics, whole.toCounts.metrics policy = .ok metrics ∧ metrics.HaveShares whole := by
  have hlimit : 100 < rangeLimit := by decide +kernel
  have hrange (rating : Rating) : whole.countOf rating * 100 < rangeLimit * whole.total := by
    have hcount := hall.countOf_le rating
    calc whole.countOf rating * 100 ≤ 100 * whole.total := by omega
      _ < rangeLimit * whole.total := Nat.mul_lt_mul_of_pos_right hlimit hall.pos
  obtain ⟨metrics, hmetrics⟩ := (WholeCounts.isResult_metrics policy whole).mpr fun _ =>
    List.forall_mem_cons.mpr ⟨hrange .high, List.forall_mem_cons.mpr
      ⟨hrange .medium, List.forall_mem_singleton.mpr (hrange .low)⟩⟩
  refine ⟨metrics, hmetrics, fun rating => ?_⟩
  have hname : rating.metric.isPercentage = true := by cases rating <;> rfl
  have hpart : rating.metric.part whole = whole.countOf rating := by cases rating <;> rfl
  obtain ⟨percent, hpercent, hvalue⟩ := percentage_of_metrics hmetrics hname
  obtain ⟨size, hsize, hunits⟩ := percentage_eq_finite policy hall.pos (hrange rating)
  rw [hpart, hsize] at hpercent
  cases hpercent
  exact ⟨size, hvalue, hunits⟩

namespace Condition

/-- A comparison with a whole number, linked to the next condition and with
sub-conditions. -/
def asking (metric : String) (relation : Relation) (percent : Nat) (link : Option String)
    (subConditions : List Condition) : Condition :=
  ⟨some metric, some relation.sign, .ofInt percent, none, link, subConditions, none⟩

variable {whole : WholeCounts} {metrics : SkillMetrics} {relation : Relation} {percent : Nat}
  {link : Option String} {subConditions : List Condition}

/-- A condition on a share compares it with the whole percentage. -/
theorem evaluate_share (hshares : metrics.HaveShares whole) (rating : Rating)
    (hpercent : percent < 2 ^ (53 : Nat)) :
    (asking rating.metric.spelling relation percent link subConditions).evaluate metrics =
      .ok (relation.ofInts (whole.share rating) (unitsPerOne * percent : Nat)) := by
  obtain ⟨size, hvalue, hunits⟩ := hshares rating
  have hmetric : (Operand.parse rating.metric.spelling).terms.map Term.name? =
      [some rating.metric] := by
    cases rating <;> decide +kernel
  have hasks : (asking rating.metric.spelling relation percent link subConditions).AsksFor
      rating.metric relation percent := ⟨hmetric, rfl, rfl, rfl⟩
  rw [hasks.evaluate hpercent hvalue, hunits]

theorem evaluate_high (hshares : metrics.HaveShares whole) (hpercent : percent < 2 ^ (53 : Nat)) :
    (asking "high%" relation percent link subConditions).evaluate metrics =
      .ok (relation.ofInts (whole.share .high) (unitsPerOne * percent : Nat)) :=
  evaluate_share hshares .high hpercent

theorem evaluate_medium (hshares : metrics.HaveShares whole)
    (hpercent : percent < 2 ^ (53 : Nat)) :
    (asking "medium%" relation percent link subConditions).evaluate metrics =
      .ok (relation.ofInts (whole.share .medium) (unitsPerOne * percent : Nat)) :=
  evaluate_share hshares .medium hpercent

theorem evaluate_low (hshares : metrics.HaveShares whole) (hpercent : percent < 2 ^ (53 : Nat)) :
    (asking "low%" relation percent link subConditions).evaluate metrics =
      .ok (relation.ofInts (whole.share .low) (unitsPerOne * percent : Nat)) :=
  evaluate_share hshares .low hpercent

/-- A condition on the sum of the upper shares compares this. -/
theorem evaluate_upper (hall : whole.AllRated) (hshares : metrics.HaveShares whole)
    (hpercent : percent < 2 ^ (53 : Nat)) :
    (asking "high% + medium%" relation percent link subConditions).evaluate metrics =
      .ok (relation.ofInts whole.upperShare (unitsPerOne * percent : Nat)) := by
  obtain ⟨high, hhigh, hhighUnits⟩ := hshares .high
  obtain ⟨medium, hmedium, hmediumUnits⟩ := hshares .medium
  obtain ⟨upper, hround, hunits⟩ := hall.exists_upper
  have hterms : (Operand.parse "high% + medium%").terms = [⟨"high%"⟩, ⟨"medium%"⟩] := by
    decide +kernel
  have hfirst : Term.value metrics ⟨"high%"⟩ = .float (.finite false high) := hhigh
  have hsecond : Term.value metrics ⟨"medium%"⟩ = .float (.finite false medium) := hmedium
  rw [← hhighUnits, ← hmediumUnits] at hround
  have hleft : (Operand.parse "high% + medium%").value metrics =
      .ok (.float (.finite false upper)) := by
    rw [Operand.value, hterms, List.foldlM_cons, hfirst, Number.zero_add_float,
      Double.zero_add_finite]
    simp only [bind, Except.bind, List.foldlM_cons, hsecond, Number.float_add_float,
      Double.add_natural hround]
    rfl
  have hevaluate := @evaluate_of_left
    (asking "high% + medium%" relation percent link subConditions) relation percent metrics
    rfl rfl rfl hpercent upper hleft
  rw [hevaluate, hunits]

/-- Where each comparison has an answer, a level holds if all comparisons of one of its
alternatives do. -/
theorem evaluateLevel_of_compared {conditions : List Condition}
    {alternatives : List (List Condition)}
    (hgroups : (groups conditions).map compared = alternatives)
    (hanswers : ∀ comparisons ∈ alternatives, ∀ condition ∈ comparisons,
      IsResult (condition.evaluate metrics)) :
    ∃ holds, evaluateLevel metrics conditions = .ok holds ∧
      (holds = true ↔ ∃ comparisons ∈ alternatives,
        ∀ condition ∈ comparisons, condition.evaluate metrics = .ok true) := by
  subst hgroups
  simp only [List.forall_mem_map] at hanswers
  obtain ⟨holds, hholds, hiff⟩ := @evaluateLevel_iff metrics conditions (by
    rw [← flatten_groups conditions, compared]
    intro other hother
    obtain ⟨condition, hcondition, hother⟩ := List.mem_flatMap.mp hother
    obtain ⟨group, hgroup, hcondition⟩ := List.mem_flatten.mp hcondition
    exact hanswers group hgroup other (List.mem_flatMap.mpr ⟨condition, hcondition, hother⟩))
  refine ⟨holds, hholds, hiff.trans ?_⟩
  simp only [List.mem_map, exists_exists_and_eq_and]

end Condition

/-! ### Tiers -/

/-- The shares of the three ratings, and of the upper two together, in units. -/
structure Shares where
  high : Nat
  medium : Nat
  low : Nat
  upper : Nat

namespace Shares

variable (shares : Shares)

/-- What the seed rule for experts asks for. -/
def IsExpert : Prop :=
  unitsPerOne * 30 ≤ shares.high ∨
    unitsPerOne * 20 ≤ shares.high ∧ shares.medium ≤ unitsPerOne * 40

/-- What the second group of the seed rule for the intermediate tier asks for. -/
@[mk_iff] structure IsIntermediate : Prop where
  medium : unitsPerOne * 40 ≤ shares.medium
  low : unitsPerOne * 30 ≤ shares.low
  high : shares.high < unitsPerOne * 20
  upper : unitsPerOne * 50 ≤ shares.upper

/-- The tier is the one that the bounds decide on. -/
structure HaveTier (tier : Tier) : Prop where
  expert : tier = .expert ↔ shares.IsExpert
  intermediate : tier = .intermediate ↔ ¬ shares.IsExpert ∧ shares.IsIntermediate

end Shares

namespace WholeCounts

variable {whole : WholeCounts}

/-- The shares of counts. -/
def shares (whole : WholeCounts) : Shares :=
  ⟨whole.share .high, whole.share .medium, whole.share .low, whole.upperShare⟩

/-- What the first group for the intermediate tier asks for implies what the second one does:
with half of the ratings medium and two fifths of them low, there is no room for a fifth of
high ones. -/
theorem AllRated.isIntermediate_of_firstGroup (hall : whole.AllRated)
    (hmedium : unitsPerOne * 50 ≤ whole.share .medium)
    (hlow : unitsPerOne * 40 ≤ whole.share .low) : whole.shares.IsIntermediate := by
  refine ⟨?_, ?_, ?_, le_upperShare (by decide) hmedium⟩
  · exact Nat.le_trans (Nat.mul_le_mul_left _ (by decide)) hmedium
  · exact Nat.le_trans (Nat.mul_le_mul_left _ (by decide)) hlow
  · by_contra hhigh
    have hsum := hall.sum
    have hhigh' := lt_of_le_share hall.pos (by decide) (Nat.not_lt.mp hhigh)
    have hmedium' := lt_of_le_share hall.pos (by decide) hmedium
    have hlow' := lt_of_le_share hall.pos (by decide) hlow
    simp only [countOf] at hhigh' hmedium' hlow'
    omega

end WholeCounts

namespace Seed

open Condition

variable {whole : WholeCounts} {metrics : SkillMetrics}

theorem compared_expert : (groups (conditions .expert)).map compared = [
    [asking "high%" .atLeast 30 (some "OR") []],
    [asking "high%" .atLeast 20 (some "AND") [asking "medium%" .atMost 40 none []],
      asking "medium%" .atMost 40 none []]] :=
  rfl

theorem compared_intermediate : (groups (conditions .intermediate)).map compared = [
    [asking "high%" .atLeast 10 (some "AND") [asking "medium%" .atLeast 30 none []],
      asking "medium%" .atLeast 30 none [],
      asking "medium%" .atLeast 20 (some "AND") [asking "low%" .atLeast 40 none []],
      asking "low%" .atLeast 40 none [],
      asking "medium%" .atLeast 50 (some "OR") []],
    [asking "medium%" .atLeast 30 (some "AND") [asking "low%" .atLeast 30 none []],
      asking "low%" .atLeast 30 none [],
      asking "medium%" .atLeast 40 (some "AND") [asking "high%" .below 20 none []],
      asking "high%" .below 20 none [],
      asking "high% + medium%" .atLeast 50 (some "OR") []]] :=
  rfl

/-- The seed rule for experts holds where its bounds are met. -/
theorem evaluateLevel_expert (hshares : metrics.HaveShares whole) :
    ∃ holds, evaluateLevel metrics (conditions .expert) = .ok holds ∧
      (holds = true ↔ whole.shares.IsExpert) := by
  obtain ⟨holds, hholds, hiff⟩ := @evaluateLevel_of_compared metrics _ _ compared_expert (by
    simp (disch := decide) only [List.forall_mem_cons, List.not_mem_nil, false_imp_iff,
      implies_true, and_true, evaluate_high hshares, evaluate_medium hshares, isResult_ok])
  refine ⟨holds, hholds, hiff.trans ?_⟩
  simp (disch := decide) only [List.mem_cons, List.not_mem_nil, or_false, exists_eq_or_imp,
    exists_eq_left, forall_eq_or_imp, forall_eq, evaluate_high hshares, evaluate_medium hshares,
    Except.ok.injEq, Relation.ofInts, decide_eq_true_eq, Nat.cast_le]
  rfl

/-- The one for the intermediate tier holds where the bounds of its second group are met. -/
theorem evaluateLevel_intermediate (hall : whole.AllRated) (hshares : metrics.HaveShares whole) :
    ∃ holds, evaluateLevel metrics (conditions .intermediate) = .ok holds ∧
      (holds = true ↔ whole.shares.IsIntermediate) := by
  obtain ⟨holds, hholds, hiff⟩ := @evaluateLevel_of_compared metrics _ _ compared_intermediate (by
    simp (disch := decide) only [List.forall_mem_cons, List.not_mem_nil, false_imp_iff,
      implies_true, and_true, evaluate_high hshares, evaluate_medium hshares,
      evaluate_low hshares, evaluate_upper hall hshares, isResult_ok])
  refine ⟨holds, hholds, hiff.trans ?_⟩
  simp (disch := decide) only [List.mem_cons, List.not_mem_nil, or_false, exists_eq_or_imp,
    exists_eq_left, forall_eq_or_imp, forall_eq, evaluate_high hshares, evaluate_medium hshares,
    evaluate_low hshares, evaluate_upper hall hshares, Except.ok.injEq, Relation.ofInts,
    decide_eq_true_eq, Nat.cast_le, Nat.cast_lt]
  constructor
  · rintro (⟨-, -, -, hlow, hmedium⟩ | ⟨-, hlow, hmedium, hhigh, hupper⟩)
    · exact hall.isIntermediate_of_firstGroup (by omega) (by omega)
    · constructor <;> dsimp only [WholeCounts.shares] <;> omega
  · rintro ⟨hmedium, hlow, hhigh, hupper⟩
    dsimp only [WholeCounts.shares] at hmedium hlow hhigh hupper
    refine .inr ⟨?_, ?_, ?_, ?_, ?_⟩ <;> omega

/-- The one for the lowest tier has an answer for all counts. -/
theorem isResult_beginner (hcounts : whole.AreOf metrics) :
    IsResult (evaluateLevel metrics (conditions .beginner)) := by
  obtain ⟨one, hone, -⟩ :
      ∃ size : Magnitude, (Number.int 1).toDouble = .ok (.finite false size) ∧ _ :=
    @Number.toDouble_nat_small 1 (by decide)
  have hcomparison : ∀ condition ∈ compared (conditions .beginner),
      Comparison.ofCondition condition =
        .ok ⟨.parse "lowCount", some ">=", .constant (.given (.finite false one))⟩ := by
    refine List.forall_mem_singleton.mpr ?_
    change (do
      let right ← (do return RightSide.constant (← Threshold.ofJson (.ofInt 1)))
      return Comparison.mk (.parse "lowCount") (some ">=") right) = _
    rw [Json.ofInt, Threshold.ofJson, hone]
    rfl
  have hleft : Operand.parse "lowCount" = .single "lowCount" := by decide +kernel
  have hanswers : ∀ condition ∈ compared (conditions .beginner),
      IsResult (condition.evaluate metrics) := by
    intro condition hmem
    rw [evaluate_of_comparison (hcomparison condition hmem), hleft]
    exact Comparison.isResult_evaluate hcounts
      ⟨Operand.single_staysInRange whole "lowCount", trivial⟩
  obtain ⟨holds, hholds, -⟩ := evaluateLevel_iff hanswers
  exact ⟨holds, hholds⟩

/-- Each tier has one seed rule. -/
theorem exists_firstFor? (first : Nat) (tier : Tier) :
    ∃ id, Rule.firstFor? (rules first) tier = some (rule id tier) := by
  cases tier <;> exact ⟨_, rfl⟩

theorem levelsExist_rules (first : Nat) : Rule.LevelsExist (rules first) := by
  have hrule (id : String) (tier : Tier) : IsResult (rule id tier).tier := by
    rw [Rule.tier, rule, Tier.ofLevel_name]
    exact isResult_ok tier
  exact List.forall_mem_cons.mpr ⟨fun _ => hrule _ _, List.forall_mem_cons.mpr
    ⟨fun _ => hrule _ _, List.forall_mem_singleton.mpr fun _ => hrule _ _⟩⟩

/-- There is room for the seed rules in a canonical text. -/
theorem isWritable_rule (id : String) (tier : Tier) : (rule id tier).IsWritable := by
  have hunnamed : (rule "" tier).IsWritable := by
    cases tier <;> decide +kernel
  exact hunnamed

section Classifying

variable (first : Nat) (hall : whole.AllRated) {policy : ZeroTotalPolicy}
  (hmetrics : whole.toCounts.metrics policy = .ok metrics) (hshares : metrics.HaveShares whole)

include hall hmetrics hshares

/-- The seed rules can be tried on the metrics of all counts. -/
theorem isResult_evaluateLevel (tier : Tier) :
    IsResult (evaluateLevel metrics (conditions tier)) := by
  cases tier with
  | expert =>
      obtain ⟨holds, hholds, -⟩ := evaluateLevel_expert hshares
      exact ⟨holds, hholds⟩
  | intermediate =>
      obtain ⟨holds, hholds, -⟩ := evaluateLevel_intermediate hall hshares
      exact ⟨holds, hholds⟩
  | beginner => exact isResult_beginner (WholeCounts.areOf_metrics hmetrics)

theorem failsNowhere : Rule.FailsNowhere (rules first) metrics := by
  have hevaluates (tier : Tier) : Rule.Evaluates (rules first) metrics tier := by
    intro rule hrule
    obtain ⟨id, hid⟩ := exists_firstFor? first tier
    cases hid.symm.trans hrule
    exact isResult_evaluateLevel hall hmetrics hshares tier
  have hloads (tier : Tier) : Rule.Loads (rules first) tier := by
    intro rule hrule
    obtain ⟨id, hid⟩ := exists_firstFor? first tier
    obtain ⟨holds, hholds⟩ := hevaluates tier rule hrule
    cases hid.symm.trans hrule
    refine ⟨?_, isWritable_rule id tier⟩
    cases hcompile : Expression.compile (Seed.rule id tier).conditions with
    | ok expression => exact isResult_ok expression
    | error failure =>
        rw [evaluateLevel, hcompile] at hholds
        cases hholds
  exact ⟨hloads, hevaluates _, fun _ => hevaluates _, fun _ _ => hevaluates _⟩

end Classifying

theorem reaches_iff (first : Nat) {tier : Tier} {holds : Bool}
    (hholds : evaluateLevel metrics (conditions tier) = .ok holds) :
    Rule.Reaches (rules first) metrics tier ↔ holds = true := by
  obtain ⟨id, hid⟩ := exists_firstFor? first tier
  unfold Rule.Reaches
  rw [hid]
  simp only [Option.some.injEq, exists_eq_left']
  rw [show (rule id tier).conditions = conditions tier from rfl, hholds, Except.ok.injEq]

end Seed

/-- The seed rules can be loaded. -/
theorem Seed.isResult_load (policy : ZeroTotalPolicy) (first : Nat) :
    IsResult ((Engine.empty policy).load (rules first)) := by
  have hall : (WholeCounts.mk 1 0 0 1).AllRated := ⟨rfl, Nat.one_pos⟩
  obtain ⟨metrics, hmetrics, hshares⟩ := hall.exists_metrics policy
  have hbuild : IsResult (RuleSet.build (rules first)) :=
    (RuleSet.isResult_build_iff (levelsExist_rules first)).mpr
      (failsNowhere first hall hmetrics hshares).load
  exact (isResult_map _ _).mpr hbuild

/-- An engine with the seed rules has a tier for all ratings: the bounds for experts decide
first, and those for the intermediate tier next. -/
theorem Engine.classify_seed {policy : ZeroTotalPolicy} {first : Nat} {engine : Engine}
    (hload : (Engine.empty policy).load (Seed.rules first) = .ok engine) {whole : WholeCounts}
    (hall : whole.AllRated) :
    ∃ tier, engine.classify whole.toCounts = .ok tier ∧ whole.shares.HaveTier tier := by
  obtain ⟨set, hbuild, rfl⟩ := map_ok hload
  obtain ⟨metrics, hmetrics, hshares⟩ := hall.exists_metrics policy
  obtain ⟨holds, hholds, hexpert⟩ := Seed.evaluateLevel_expert hshares
  obtain ⟨holds', hholds', hintermediate⟩ := Seed.evaluateLevel_intermediate hall hshares
  obtain ⟨tier, htier, hby⟩ := RuleSet.classify_byPriority hbuild
    (Seed.failsNowhere first hall hmetrics hshares)
  refine ⟨tier, ?_, ?_, ?_⟩
  · have hengine : Engine.metrics ⟨policy, set⟩ whole.toCounts = .ok metrics := hmetrics
    change Engine.classify ⟨policy, set⟩ whole.toCounts = .ok tier
    rw [Engine.classify, hengine]
    exact htier
  · rw [hby.expert, Seed.reaches_iff first hholds, hexpert]
  · rw [hby.intermediate, Seed.reaches_iff first hholds, Seed.reaches_iff first hholds', hexpert,
      hintermediate]

end SkillTiers
