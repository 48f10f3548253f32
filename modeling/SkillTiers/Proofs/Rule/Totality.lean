/-
# When rules have an answer

Rules classify all counts up to 2^53 under every policy, whatever their metrics,
operators and links say and whatever value is their threshold, unless it is an integer
beyond the range of doubles. Such a threshold in a rule that counts is not taken for the
undefined number, as other values that are no threshold are: it keeps all of the rules
from an answer (`RuleSet.classifyCounts_by_thresholds`).

Counts of any size have a tier from a compiled rule set if their shares and the sums
that its conditions ask for stay in range (`Engine.isResult_classify`).
-/

import SkillTiers.Proofs.Condition.Operand
import SkillTiers.Proofs.Metrics
import SkillTiers.Proofs.Rule.Digest
import SkillTiers.Rule.Engine
import Mathlib.Algebra.Order.BigOperators.Group.List

namespace SkillTiers

-- A power is the one of the core library, whatever else is imported.
attribute [local instance (high)] instPowNat

/-! ### Compiled rules -/

/-- The shares of the counts are in range, and so are the sums of them for which the
rules that count ask. -/
structure WholeCounts.InRange (set : RuleSet) (whole : WholeCounts) : Prop where
  shares : whole.SharesInRange
  sums : ∀ chosen ∈ set.chosen, ∀ comparison ∈ chosen.expression.comparisons,
    comparison.StaysInRange whole

/-- Metrics have a tier if the sums that are asked for stay in range. -/
theorem RuleSet.isResult_classify {set : RuleSet} {whole : WholeCounts} {metrics : SkillMetrics}
    (hcounts : whole.AreOf metrics)
    (hsums : ∀ chosen ∈ set.chosen, ∀ comparison ∈ chosen.expression.comparisons,
      comparison.StaysInRange whole) :
    IsResult (set.classify metrics) := by
  have hreaches (tier : Tier) : IsResult (set.reaches metrics tier) := by
    unfold reaches
    cases hchosen : set.chosenFor? tier with
    | none => exact isResult_ok false
    | some chosen =>
        exact Expression.isResult_evaluate hcounts
          (hsums chosen (List.mem_of_find?_eq_some hchosen))
  have hreached (tiers : List Tier) : IsResult (set.firstReached metrics tiers) := by
    induction tiers with
    | nil => exact isResult_ok _
    | cons tier rest ih =>
        refine (hreaches tier).bind fun holds _ => ?_
        cases holds with
        | true => exact isResult_ok tier
        | false => exact ih
  exact hreached Tier.priority

/-- An engine has a tier for counts that stay in range under its rules. -/
theorem Engine.isResult_classify {engine : Engine} {whole : WholeCounts}
    (hrange : whole.InRange engine.ruleSet) : IsResult (engine.classify whole.toCounts) := by
  have hmetrics := (WholeCounts.isResult_metrics engine.policy whole).mpr hrange.shares
  refine hmetrics.bind fun metrics hmetrics => ?_
  exact RuleSet.isResult_classify (WholeCounts.areOf_metrics hmetrics) hrange.sums

/-- Counts that have a tier have metrics. -/
theorem Engine.isResult_metrics {engine : Engine} {counts : Counts}
    (htier : IsResult (engine.classify counts)) : IsResult (engine.metrics counts) := by
  unfold Engine.classify at htier
  cases hmetrics : engine.metrics counts with
  | ok metrics => exact isResult_ok metrics
  | error failure =>
      rw [hmetrics] at htier
      exact absurd htier (not_isResult_error failure)

/-! ### Counts that are not large -/

/-- None of the counts is above the bound. -/
def WholeCounts.AtMost (bound : Nat) (whole : WholeCounts) : Prop :=
  ∀ count ∈ [whole.high, whole.medium, whole.low, whole.total], count ≤ bound

theorem two_pow_lt_rangeLimit : 2 ^ topPlaces * 2 ^ (53 : Nat) < rangeLimit := by
  unfold rangeLimit
  rw [Nat.mul_comm]
  exact Nat.mul_lt_mul_of_pos_right (by decide) (Nat.two_pow_pos topPlaces)

theorem WholeCounts.AtMost.sharesInRange {whole : WholeCounts}
    (hcounts : whole.AtMost (2 ^ (53 : Nat))) : whole.SharesInRange := by
  intro htotal count hcount
  have hbound : count ≤ 2 ^ (53 : Nat) := by
    refine hcounts count ?_
    simp only [List.mem_cons, List.not_mem_nil, or_false] at hcount ⊢
    tauto
  have hplaces : 2 ^ (7 : Nat) ≤ 2 ^ topPlaces :=
    Nat.pow_le_pow_right (by decide) (by unfold topPlaces; decide)
  calc count * 100 ≤ 2 ^ (53 : Nat) * 100 := Nat.mul_le_mul_right 100 hbound
    _ ≤ 2 ^ topPlaces * 2 ^ (53 : Nat) := by omega
    _ < rangeLimit := two_pow_lt_rangeLimit
    _ ≤ rangeLimit * whole.total := Nat.le_mul_of_pos_right _ htotal

theorem Term.count_le {whole : WholeCounts} {bound : Nat} (hcounts : whole.AtMost bound)
    (term : Term) : term.count whole ≤ bound := by
  obtain ⟨hhigh, hmedium, hlow, htotal, -⟩ : _ ∧ _ ∧ _ ∧ _ ∧ _ := by
    simpa only [WholeCounts.AtMost, List.forall_mem_cons] using hcounts
  unfold count
  cases term.name? with
  | none => exact Nat.zero_le _
  | some name =>
      cases name with
      | highCount => exact hhigh
      | mediumCount => exact hmedium
      | lowCount => exact hlow
      | total => exact htotal
      | _ => exact Nat.zero_le _

/-- The sum of the counts that an operand names is bounded by the number of its terms. -/
theorem Operand.countSum_le {whole : WholeCounts} {bound : Nat} (hcounts : whole.AtMost bound)
    (operand : Operand) : operand.countSum whole ≤ operand.terms.length * bound := by
  have hsum : operand.countSum whole ≤ (operand.terms.map (·.count whole)).length * bound := by
    refine List.sum_le_card_nsmul _ _ fun count hcount => ?_
    obtain ⟨term, -, rfl⟩ := List.mem_map.mp hcount
    exact term.count_le hcounts
  rwa [List.length_map] at hsum

/-- A sum that is written out in a text of any length that occurs stays in range. -/
theorem Operand.parse_staysInRange {whole : WholeCounts}
    (hcounts : whole.AtMost (2 ^ (53 : Nat))) {text : String}
    (htext : text.length < 2 ^ topPlaces) : (parse text).StaysInRange whole := by
  intro _
  have hlength : (parse text).terms.length ≤ 2 ^ topPlaces := by
    have hmarks : text.toList.count '+' ≤ text.toList.length := List.count_le_length
    rw [length_terms_parse]
    rw [String.length_toList] at hmarks
    omega
  calc (parse text).countSum whole
      ≤ (parse text).terms.length * 2 ^ (53 : Nat) := countSum_le hcounts _
    _ ≤ 2 ^ topPlaces * 2 ^ (53 : Nat) := Nat.mul_le_mul_right _ hlength
    _ < rangeLimit := two_pow_lt_rangeLimit

/-! ### Rules -/

namespace Rule

/-- No integer threshold that the rule compares with is out of range. -/
def HasThresholdsInRange (rule : Rule) : Prop :=
  ∀ condition ∈ Condition.compared rule.conditions, condition.HasThresholdInRange

/-- No metric of the rule is written out as a text of 2^970 characters or more. -/
def HasShortTexts (rule : Rule) : Prop :=
  ∀ condition ∈ Condition.compared rule.conditions,
    (condition.metric.getD "").length < 2 ^ topPlaces

/-- Metrics that are written out as a few characters are no such texts. -/
theorem hasShortTexts_of_few {rule : Rule} (hfew : ∀ condition ∈ Condition.compared rule.conditions,
    (condition.metric.getD "").length < 2 ^ (5 : Nat)) : rule.HasShortTexts := by
  have hplaces : 2 ^ (5 : Nat) ≤ 2 ^ topPlaces :=
    Nat.pow_le_pow_right (by decide) (by unfold topPlaces; decide)
  exact fun condition hmem => Nat.lt_of_lt_of_le (hfew condition hmem) hplaces

/-- The comparisons of a compiled rule stay in range for counts that are not large. -/
theorem staysInRange {rule : Rule} (htexts : rule.HasShortTexts) {expression : Expression}
    (hcompile : Expression.compile rule.conditions = .ok expression) {whole : WholeCounts}
    (hcounts : whole.AtMost (2 ^ (53 : Nat))) {comparison : Comparison}
    (hmem : comparison ∈ expression.comparisons) : comparison.StaysInRange whole := by
  obtain ⟨condition, hcondition, hcomparison⟩ := Expression.exists_condition hcompile hmem
  exact Comparison.staysInRange_of_left hcomparison
    (Operand.parse_staysInRange hcounts (htexts condition hcondition))

end Rule

namespace RuleSet

/-- Rules for levels that exist can be told apart by their levels. -/
theorem isResult_firstOfLevels {rules : List Rule}
    (hlevels : ∀ rule ∈ rules, rule.isActive = true → IsResult rule.tier) :
    IsResult (firstOfLevels rules) := by
  unfold firstOfLevels
  rw [isResult_map, isResult_mapM]
  intro rule hrule
  obtain ⟨hrule, hactive⟩ := List.mem_filter.mp hrule
  exact (isResult_map (fun tier => (tier, rule)) rule.tier).mpr (hlevels rule hrule hactive)

/-- An item that comes first is in the list. -/
theorem mem_of_mem_firsts {items front : List (Tier × Rule)} {item : Tier × Rule}
    (hmem : item ∈ items.foldl (fun first item =>
      if first.any (·.1 == item.1) then first else first ++ [item]) front) :
    item ∈ front ++ items := by
  induction items generalizing front with
  | nil => exact List.mem_append_left _ hmem
  | cons other rest ih =>
      rw [List.foldl_cons] at hmem
      split at hmem
      · rcases List.mem_append.mp (ih hmem) with hfront | hrest
        · exact List.mem_append_left _ hfront
        · exact List.mem_append_right _ (List.mem_cons_of_mem _ hrest)
      · have hlater := ih hmem
        rw [List.append_assoc, List.singleton_append] at hlater
        exact hlater

/-- The rules that count are among the rules. -/
theorem mem_of_firstOfLevels {rules : List Rule} {first : List (Tier × Rule)}
    (hfirst : firstOfLevels rules = .ok first) {item : Tier × Rule} (hmem : item ∈ first) :
    item.2 ∈ rules := by
  obtain ⟨tiered, htiered, rfl⟩ := map_ok hfirst
  obtain ⟨rule, hrule, hitem⟩ :=
    exists_of_mem_forall₂ (forall₂_of_mapM htiered) (mem_of_mem_firsts hmem)
  obtain ⟨tier, -, rfl⟩ := map_ok hitem
  exact List.mem_of_mem_filter hrule

variable {rules : List Rule} {first : List (Tier × Rule)}

/-- Rules are compiled if and only if their thresholds are in range. -/
theorem isResult_compileRules :
    IsResult (compileRules first) ↔ ∀ item ∈ first, item.2.HasThresholdsInRange := by
  rw [compileRules, isResult_mapM]
  refine forall₂_congr fun item _ => ?_
  exact (isResult_map _ _).trans (Expression.isResult_compile _)

/-- Rules that can be told apart are built if and only if the thresholds of those that
count are in range and there is room for these rules in a canonical text. -/
theorem isResult_build (hfirst : firstOfLevels rules = .ok first) :
    IsResult (build rules) ↔
      ∀ item ∈ first, item.2.HasThresholdsInRange ∧ item.2.IsWritable := by
  rw [build_eq hfirst, forall₂_and, ← isResult_compileRules, ← Rule.isResult_versionOf]
  exact isResult_map₂ (RuleSet.mk (byId rules)) _ _

/-- A threshold out of range is what building fails on first. -/
theorem build_of_threshold (hfirst : firstOfLevels rules = .ok first)
    (hthresholds : ¬ ∀ item ∈ first, item.2.HasThresholdsInRange) :
    build rules = .error thresholdOverflow := by
  have honly (item : Tier × Rule) : FailsOnlyWith thresholdOverflow
      (do return ChosenRule.mk item.1 item.2 (← Expression.compile item.2.conditions)) :=
    (failsOnlyWith_compile item.2.conditions).bind fun _ => failsOnlyWith_ok _ _
  rw [← isResult_compileRules] at hthresholds
  rw [build_eq hfirst]
  cases hchosen : compileRules first with
  | ok chosen => exact absurd ⟨chosen, hchosen⟩ hthresholds
  | error failure =>
      cases failsOnlyWith_mapM honly first failure hchosen
      rfl

/-- Where the thresholds are in range, building fails on the canonical text alone. -/
theorem build_of_text (hfirst : firstOfLevels rules = .ok first)
    (hthresholds : ∀ item ∈ first, item.2.HasThresholdsInRange) {failure : Failure}
    (htext : Rule.checkCanonical first = .error failure) : build rules = .error failure := by
  obtain ⟨chosen, hchosen⟩ := isResult_compileRules.mpr hthresholds
  rw [build_eq hfirst, hchosen, Rule.versionOf_of_error htext]
  rfl

/-- What is compiled for a level is the conditions of one of the rules. -/
theorem compile_of_build {set : RuleSet} (hbuild : build rules = .ok set) {chosen : ChosenRule}
    (hmem : chosen ∈ set.chosen) :
    ∃ rule ∈ rules, Expression.compile rule.conditions = .ok chosen.expression := by
  obtain ⟨first, hfirst, hall, -, -⟩ := build_ok hbuild
  obtain ⟨item, hitem, hchosen⟩ := exists_of_mem_forall₂ (forall₂_of_mapM hall) hmem
  obtain ⟨expression, hcompile, rfl⟩ := map_ok hchosen
  exact ⟨item.2, mem_of_firstOfLevels hfirst hitem, hcompile⟩

/-- Counts that are not large stay in range under compiled rules. -/
theorem inRange_of_build (htexts : ∀ rule ∈ rules, rule.HasShortTexts) {set : RuleSet}
    (hbuild : build rules = .ok set) {whole : WholeCounts}
    (hcounts : whole.AtMost (2 ^ (53 : Nat))) : whole.InRange set := by
  refine ⟨hcounts.sharesInRange, fun chosen hchosen comparison hcomparison => ?_⟩
  obtain ⟨rule, hrule, hcompile⟩ := compile_of_build hbuild hchosen
  exact Rule.staysInRange (htexts rule hrule) hcompile hcounts hcomparison

/-- Rules whose levels exist have a tier for all counts up to 2^53 under every policy if
the integer thresholds of the rules that count are in range and there is room for these
rules in a canonical text. If one of the thresholds is out of range, they have none for any
of these counts, and if there is no canonical text, they have none for the reason for which
there is no such text. -/
theorem classifyCounts_by_thresholds
    (hlevels : ∀ rule ∈ rules, rule.isActive = true → IsResult rule.tier)
    (htexts : ∀ rule ∈ rules, rule.HasShortTexts) {whole : WholeCounts}
    (hcounts : whole.AtMost (2 ^ (53 : Nat))) (policy : ZeroTotalPolicy) :
    ∃ first, firstOfLevels rules = .ok first ∧
      ((∀ item ∈ first, item.2.HasThresholdsInRange ∧ item.2.IsWritable) →
        ∃ tier, classifyCounts rules policy.name whole.toCounts = .ok tier) ∧
      (¬ (∀ item ∈ first, item.2.HasThresholdsInRange) →
        classifyCounts rules policy.name whole.toCounts = .error thresholdOverflow) ∧
      ((∀ item ∈ first, item.2.HasThresholdsInRange) →
        ¬ (∀ item ∈ first, item.2.IsWritable) →
          ∃ failure, Rule.checkCanonical first = .error failure ∧
            classifyCounts rules policy.name whole.toCounts = .error failure) := by
  obtain ⟨first, hfirst⟩ := isResult_firstOfLevels hlevels
  obtain ⟨metrics, hmetrics⟩ :=
    (WholeCounts.isResult_metrics policy whole).mpr hcounts.sharesInRange
  have hclassify : classifyCounts rules policy.name whole.toCounts =
      (build rules >>= fun set => set.classify metrics) := by
    unfold classifyCounts
    rw [Counts.metricsUnderName_name, hmetrics]
    rfl
  rw [hclassify]
  refine ⟨first, hfirst, fun hgood => ?_, fun hthresholds => ?_, fun hthresholds hlarge => ?_⟩
  · refine ((isResult_build hfirst).mpr hgood).bind fun set hbuild => ?_
    exact isResult_classify (WholeCounts.areOf_metrics hmetrics)
      (inRange_of_build htexts hbuild hcounts).sums
  · rw [build_of_threshold hfirst hthresholds]
    rfl
  · cases htext : Rule.checkCanonical first with
    | ok _ => exact absurd (Rule.checkCanonical_ok_iff.mp htext) hlarge
    | error failure =>
        rw [build_of_text hfirst hthresholds htext]
        exact ⟨failure, rfl, rfl⟩

/-- Rules of which each has something in it that is no number, no metric or no relation. -/
def confused : List Rule :=
  [⟨"r", "expert", [⟨some "high% + stars", some ">=", .string "most", none, some "OR",
      [⟨none, none, .array [], none, none, [], none⟩], none⟩,
      ⟨some "low%", some "!=", .bool true, none, some "XOR", [], none⟩], 0, true⟩,
    ⟨"s", "guru", [], 1, false⟩]

/-- Such rules have a tier all the same. -/
theorem classifyCounts_confused :
    ∃ tier, classifyCounts confused ZeroTotalPolicy.nan.name (WholeCounts.mk 1 2 3 6).toCounts =
      .ok tier := by
  have hfirst : firstOfLevels confused = .ok [(.expert, confused.head (by decide))] := rfl
  have hlevels : ∀ rule ∈ confused, rule.isActive = true → IsResult rule.tier := by
    simp only [confused, List.forall_mem_cons, List.not_mem_nil, false_implies, implies_true,
      and_true]
    exact ⟨fun _ => isResult_ok Tier.expert, fun hactive => by cases hactive⟩
  have htexts : ∀ rule ∈ confused, rule.HasShortTexts := by
    have hfew : ∀ rule ∈ confused, ∀ condition ∈ Condition.compared rule.conditions,
        (condition.metric.getD "").length < 2 ^ (5 : Nat) := by
      simp only [confused, Condition.compared, List.forall_mem_cons, List.flatMap_cons,
        List.flatMap_nil, List.append_nil, List.cons_append, List.nil_append, List.not_mem_nil,
        false_implies, implies_true, and_true]
      decide
    exact fun rule hrule => Rule.hasShortTexts_of_few (hfew rule hrule)
  have hcounts : (WholeCounts.mk 1 2 3 6).AtMost (2 ^ (53 : Nat)) := by
    unfold WholeCounts.AtMost
    decide
  have hwritable : ∀ item ∈ [(Tier.expert, confused.head (by decide))], item.2.IsWritable := by
    decide +kernel
  obtain ⟨first, hsame, htier, -⟩ := classifyCounts_by_thresholds hlevels htexts hcounts .nan
  cases hfirst.symm.trans hsame
  refine htier fun item hmem => ⟨?_, hwritable item hmem⟩
  revert item
  simp only [confused, Rule.HasThresholdsInRange, Condition.compared, List.head_cons,
    List.forall_mem_cons, List.flatMap_cons, List.flatMap_nil, List.append_nil, List.cons_append,
    List.nil_append, List.not_mem_nil, false_implies, implies_true, and_true]
  refine ⟨?_, ?_, ?_⟩ <;>
    · intro _ number hnumber
      cases hnumber

/-- Rules that have a tier are compiled before. -/
theorem isResult_build_of_classifyCounts {policy : String} {counts : Counts} {tier : Tier}
    (htier : classifyCounts rules policy counts = .ok tier) : IsResult (build rules) := by
  unfold classifyCounts at htier
  cases hmetrics : counts.metricsUnderName policy with
  | error failure =>
      rw [hmetrics] at htier
      cases htier
  | ok metrics =>
      rw [hmetrics] at htier
      cases hbuild : build rules with
      | ok set => exact isResult_ok set
      | error failure =>
          rw [hbuild] at htier
          cases htier

/-- Not all rules have a tier: the threshold may be 10^400. -/
theorem not_classifyCounts_isResult :
    ¬ ∀ (rules : List Rule) (policy : ZeroTotalPolicy) (whole : WholeCounts),
      (∀ rule ∈ rules, IsResult rule.tier) → whole.AtMost (2 ^ (53 : Nat)) →
        ∃ tier, classifyCounts rules policy.name whole.toCounts = .ok tier := by
  intro hall
  obtain ⟨tier, htier⟩ := hall [expertRule "" (10 ^ 400 : Nat)] .nan ⟨1, 0, 0, 1⟩
    (List.forall_mem_singleton.mpr (isResult_ok Tier.expert))
    (by unfold WholeCounts.AtMost; decide)
  have hthresholds := (isResult_build rfl).mp (isResult_build_of_classifyCounts htier)
  have hrange := (hthresholds (.expert, expertRule "" (10 ^ 400 : Nat)) List.mem_cons_self).1
    _ List.mem_cons_self rfl _ rfl
  rw [Int.natAbs_natCast] at hrange
  exact absurd hrange (by decide +kernel)

/-! ### A sum that leaves the range -/

/-- A rule for experts that adds a percentage to the total. -/
def addingRule : Rule :=
  ⟨"r", "expert",
    [⟨some "totalSubskills + high%", some ">=", .null, none, none, [], none⟩], 0, true⟩

/-- The comparison of the rule. -/
def addingComparison : Comparison :=
  ⟨.parse "totalSubskills + high%", some ">=", .constant .absent⟩

/-- The rule set of the rule alone. -/
def adding : RuleSet where
  rules := [addingRule]
  chosen := [⟨.expert, addingRule, ⟨[⟨[⟨addingComparison, []⟩]⟩]⟩⟩]
  version := Rule.digest (Rule.canonicalText [(.expert, addingRule)])

theorem build_adding : build [addingRule] = .ok adding :=
  build_singleton rfl rfl rfl (by decide +kernel)

theorem isBuilt_adding : adding.IsBuilt :=
  ⟨[addingRule], build_adding⟩

/-- A count that is added to a percentage must have a nearest double. -/
theorem add_overflow {value : Nat} (hvalue : rangeLimit ≤ value) (double : Double) :
    (Number.int value).add (.float double) = .error .conversion := by
  rcases Number.toDouble_int_cases value with ⟨hsmall, -⟩ | ⟨-, hdouble⟩
  · rw [Int.natAbs_natCast] at hsmall
    exact absurd hsmall (Nat.not_lt.mpr hvalue)
  · rw [Number.add, hdouble]
    · rfl
    · intro _ _ _ hfloat
      cases hfloat

/-- The rule has no answer where the total is out of range. -/
theorem classify_adding {metrics : SkillMetrics} {total : Nat}
    (hmetrics : metrics.totalSubskills = .int total) (htotal : rangeLimit ≤ total) :
    adding.classify metrics = .error (.overflow .conversion) := by
  have hterms : addingComparison.left.terms = [⟨"totalSubskills"⟩, ⟨"high%"⟩] := by
    decide +kernel
  have hfirst : Term.value metrics ⟨"totalSubskills"⟩ = .int total := hmetrics
  have hsecond : Term.value metrics ⟨"high%"⟩ = .float metrics.highPercent := rfl
  have hzero : (0 : Number).add (.int total) = .ok (.int total) := by
    have hsum : (0 : Number).add (.int total) = .ok (.int (0 + total)) := rfl
    rw [hsum, Int.zero_add]
  have hvalue : addingComparison.left.value metrics = .error (.overflow .conversion) := by
    unfold Operand.value
    rw [hterms, List.foldlM_cons, hfirst, hzero]
    simp only [bind, Except.bind]
    rw [List.foldlM_cons, hsecond, add_overflow htotal]
    rfl
  have hcomparison : addingComparison.evaluate metrics = .error (.overflow .conversion) := by
    have hrelation : addingComparison.relation? = some .atLeast := by decide +kernel
    unfold Comparison.evaluate
    rw [hrelation, hvalue]
    rfl
  have hgrouped : (GroupedComparison.mk addingComparison []).evaluate metrics =
      .error (.overflow .conversion) := by
    unfold GroupedComparison.evaluate
    rw [hcomparison]
    rfl
  have hreaches : adding.reaches metrics .expert = .error (.overflow .conversion) := by
    change ([⟨[⟨addingComparison, []⟩]⟩] : List AndGroup).anyM (·.evaluate metrics) = _
    rw [List.anyM, AndGroup.evaluate, List.allM, hgrouped]
    rfl
  unfold classify Tier.priority
  rw [firstReached, hreaches]
  rfl

end RuleSet

end SkillTiers
