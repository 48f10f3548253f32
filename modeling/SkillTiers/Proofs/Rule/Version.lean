/-
# The version stands for what the rules decide

Rule sets whose rules have one canonical text decide alike: they reach the same
tier for all metrics or fail alike (`RuleSet.classify_eq_of_canonicalText`). The
text determines the rules that count up to their remarks and the order of keys,
compiling reads nothing else of them, and a compiled rule set tries its levels in
an order of its own.
-/

import SkillTiers.Proofs.Condition.Stored
import SkillTiers.Proofs.Json.Writer
import SkillTiers.Proofs.Outcome
import SkillTiers.Rule.RuleSet

namespace SkillTiers

/-- Names tell tiers apart. -/
theorem Tier.name_inj {first second : Tier} (hname : first.name = second.name) :
    first = second := by
  cases first <;> cases second <;> first | rfl | exact absurd hname (by decide)

/-- The failure of a threshold that no double is near. -/
def thresholdOverflow : Failure :=
  .overflow .conversion

private theorem toDouble_error {value : Number} {cause : Overflow}
    (herror : value.toDouble = .error cause) : cause = .conversion := by
  cases value with
  | float value => cases herror
  | int value =>
      unfold Number.toDouble at herror
      dsimp only at herror
      generalize Double.ofInt? value = double at herror
      cases double with
      | none => exact (Except.error.inj herror).symm
      | some double => cases herror

private theorem failsOnlyWith_threshold (value : Json) :
    FailsOnlyWith thresholdOverflow (Threshold.ofJson value) := by
  cases value with
  | number value =>
      rw [Threshold.ofJson]
      apply FailsOnlyWith.bind _ fun _ => failsOnlyWith_ok _ _
      intro other h
      cases hdouble : value.toDouble with
      | error cause =>
          rw [hdouble, toDouble_error hdouble] at h
          exact (Except.error.inj h).symm
      | ok double =>
          rw [hdouble] at h
          cases h
  | _ => exact failsOnlyWith_ok _ _

private theorem failsOnlyWith_comparison (condition : Condition) :
    FailsOnlyWith thresholdOverflow (Comparison.ofCondition condition) := by
  unfold Comparison.ofCondition
  apply FailsOnlyWith.bind _ fun _ => failsOnlyWith_ok _ _
  cases hother : condition.otherMetric? with
  | some name =>
      rw [Comparison.rightSide_of_metric hother]
      exact failsOnlyWith_ok _ _
  | none =>
      rw [Comparison.rightSide_of_threshold hother]
      exact (failsOnlyWith_threshold condition.value).bind fun _ => failsOnlyWith_ok _ _

/-- Compiling fails only where a threshold is too large. -/
theorem failsOnlyWith_compile (conditions : List Condition) :
    FailsOnlyWith thresholdOverflow (Expression.compile conditions) := by
  have hgrouped (condition : Condition) :
      FailsOnlyWith thresholdOverflow (GroupedComparison.ofCondition condition) :=
    (failsOnlyWith_comparison condition).bind fun _ =>
      (failsOnlyWith_mapM failsOnlyWith_comparison _).bind fun _ => failsOnlyWith_ok _ _
  unfold Expression.compile
  apply FailsOnlyWith.bind _ fun _ => failsOnlyWith_ok _ _
  exact failsOnlyWith_mapM
    (fun group => (failsOnlyWith_mapM hgrouped group).bind fun _ => failsOnlyWith_ok _ _) _

namespace RuleSet

/-- What classifying reads of a rule set: its tiers with their expressions. -/
def levels (set : RuleSet) : List (Tier × Expression) :=
  set.chosen.map fun chosen => (chosen.tier, chosen.expression)

/-- The tiers of rules with the expressions of their conditions. -/
def compileLevels (rules : List (Tier × Rule)) : Outcome (List (Tier × Expression)) :=
  rules.mapM fun item => do return (item.1, ← Expression.compile item.2.conditions)

/-- No tier comes twice among the rules that count. -/
theorem nodup_firstOfLevels {rules : List Rule} {first : List (Tier × Rule)}
    (hfirst : firstOfLevels rules = .ok first) : (first.map (·.1)).Nodup := by
  have hfold (items front : List (Tier × Rule)) (hfront : (front.map (·.1)).Nodup) :
      ((items.foldl (fun first item =>
        if first.any (·.1 == item.1) then first else first ++ [item]) front).map (·.1)).Nodup := by
    induction items generalizing front with
    | nil => exact hfront
    | cons item rest ih =>
        rw [List.foldl_cons]
        apply ih
        split
        · exact hfront
        · rename_i hnew
          rw [List.map_append, List.nodup_append]
          refine ⟨hfront, List.nodup_singleton _, ?_⟩
          intro tier hmem other hother hsame
          obtain ⟨old, hold, htier⟩ := List.mem_map.mp hmem
          apply hnew
          rw [List.any_eq_true]
          refine ⟨old, hold, ?_⟩
          rw [htier, hsame, List.mem_singleton.mp hother]
          exact beq_self_eq_true _
  unfold firstOfLevels at hfirst
  cases htiered : (rules.filter (·.isActive)).mapM fun rule => do return (← rule.tier, rule) with
  | error failure =>
      rw [htiered] at hfirst
      cases hfirst
  | ok tiered =>
      rw [htiered] at hfirst
      rw [← Except.ok.inj hfirst]
      exact hfold tiered [] List.nodup_nil

/-- The rules that count, compiled. -/
def compileRules (rules : List (Tier × Rule)) : Outcome (List ChosenRule) :=
  rules.mapM fun item => do
    return ChosenRule.mk item.1 item.2 (← Expression.compile item.2.conditions)

/-- A rule set is built of the compiled rules that count and of their version. -/
theorem build_eq {rules : List Rule} {first : List (Tier × Rule)}
    (hfirst : firstOfLevels rules = .ok first) :
    build rules = do
      return RuleSet.mk (byId rules) (← compileRules first) (← Rule.versionOf first) := by
  unfold build
  rw [hfirst]
  rfl

theorem build_ok {rules : List Rule} {set : RuleSet} (hbuild : build rules = .ok set) :
    ∃ first, firstOfLevels rules = .ok first ∧ compileRules first = .ok set.chosen ∧
      set.rules = byId rules ∧ Rule.versionOf first = .ok set.version := by
  cases hfirst : firstOfLevels rules with
  | error failure =>
      unfold build at hbuild
      rw [hfirst] at hbuild
      cases hbuild
  | ok first =>
      rw [build_eq hfirst] at hbuild
      obtain ⟨chosen, version, hchosen, hversion, rfl⟩ := map₂_ok hbuild
      exact ⟨first, rfl, hchosen, rfl, hversion⟩

/-- A rule set is built where the rules that count are compiled and have a version; it has
their compiled levels. -/
theorem build_levels {rules : List Rule} {first : List (Tier × Rule)}
    (hfirst : firstOfLevels rules = .ok first) :
    (build rules).map levels = do
      let levels ← compileLevels first
      let _ ← Rule.versionOf first
      return levels := by
  have hlevels : compileLevels first =
      (compileRules first).map (·.map fun chosen => (chosen.tier, chosen.expression)) := by
    unfold compileLevels compileRules
    rw [mapM_map_results]
    congr 1
    funext item
    cases Expression.compile item.2.conditions with
    | error failure => rfl
    | ok expression => rfl
  rw [build_eq hfirst, hlevels]
  cases compileRules first with
  | error failure => rfl
  | ok chosen =>
      cases Rule.versionOf first with
      | error failure => rfl
      | ok version => rfl

/-- What is reached for a tier, told by the levels. -/
theorem reaches_eq (set : RuleSet) (metrics : SkillMetrics) (tier : Tier) :
    set.reaches metrics tier =
      ((set.levels.find? (·.1 == tier)).map fun level => level.2.evaluate metrics).getD
        (.ok false) := by
  have hfind := find?_key_map ChosenRule.tier Prod.fst
    (fun chosen : ChosenRule => (chosen.tier, chosen.expression)) (fun _ => rfl) set.chosen tier
  unfold reaches levels chosenFor?
  rw [hfind]
  cases set.chosen.find? (·.tier == tier) with
  | none => rfl
  | some chosen => rfl

/-- Rule sets with the same levels in any order classify alike. -/
theorem classify_perm {set set' : RuleSet} (hperm : set.levels.Perm set'.levels)
    (htiers : (set.levels.map (·.1)).Nodup) (metrics : SkillMetrics) :
    set.classify metrics = set'.classify metrics := by
  have hreaches (tier : Tier) : set.reaches metrics tier = set'.reaches metrics tier := by
    rw [reaches_eq, reaches_eq, find?_key_perm Prod.fst hperm htiers tier]
  have hreached (tiers : List Tier) :
      set.firstReached metrics tiers = set'.firstReached metrics tiers := by
    induction tiers with
    | nil => rfl
    | cons tier rest ih => rw [firstReached, firstReached, hreaches tier, ih]
  exact hreached Tier.priority

/-- Rules for one tier with alike conditions. -/
def RulesAlike (first second : Tier × Rule) : Prop :=
  first.1 = second.1 ∧
    List.Forall₂ Condition.StoredAlike first.2.conditions second.2.conditions

/-- What the canonical text says about a rule determines its tier and, up to the
order of keys, its conditions. -/
private theorem rulesAlike_of_versioned {first second : Tier × Rule}
    (halike : Json.Alike (first.2.versioned first.1) (second.2.versioned second.1)) :
    RulesAlike first second := by
  have hkeys : ["id", "level", "conditions"].Nodup := by decide
  have hlookup := Json.lookup_alike halike hkeys hkeys
  have hlevel : Json.Alike (.string first.1.name) (.string second.1.name) :=
    Option.some.inj (hlookup "level")
  have hconditions : Json.Alike first.2.storedConditions second.2.storedConditions :=
    Option.some.inj (hlookup "conditions")
  exact ⟨Tier.name_inj (Json.string_of_alike hlevel),
    Condition.storedAlike_of_alike hconditions⟩

/-- The rules in the order of the canonical text. -/
private def ordered (rules : List (Tier × Rule)) : List (Tier × Rule) :=
  sortBy (fun a b => decide (a.1.name ≤ b.1.name)) rules

/-- One canonical text means alike rules, one by one in its order. -/
private theorem rulesAlike_of_canonicalText {first second : List (Tier × Rule)}
    (htext : Rule.canonicalText first = Rule.canonicalText second) :
    List.Forall₂ RulesAlike (ordered first) (ordered second) := by
  have harrays := Json.items_alike (Json.write_inj htext)
  rw [List.forall₂_map_left_iff, List.forall₂_map_right_iff] at harrays
  exact harrays.imp fun _ _ halike => rulesAlike_of_versioned halike

/-- As many conditions lie in one another in alike rules. -/
private theorem nesting_of_rulesAlike {first second : List (Tier × Rule)}
    (halike : List.Forall₂ RulesAlike first second) :
    first.map (·.2.nesting) = second.map (·.2.nesting) := by
  induction halike with
  | nil => rfl
  | cons hrules _ ih =>
      rw [List.map_cons, List.map_cons, ih, Rule.nesting, Rule.nesting,
        Condition.nestingOfAll_alike hrules.2]

/-- Rules with one canonical text have one version, or none for the same reason. -/
theorem versionOf_of_canonicalText {first second : List (Tier × Rule)}
    (htext : Rule.canonicalText first = Rule.canonicalText second) :
    Rule.versionOf first = Rule.versionOf second := by
  have halike := rulesAlike_of_canonicalText htext
  have hdeep (tooDeep : Nat → Bool) : first.any (fun item => tooDeep item.2.nesting) =
      second.any fun item => tooDeep item.2.nesting := by
    have hordered := congrArg (·.any tooDeep) (nesting_of_rulesAlike halike)
    simp only [List.any_map] at hordered
    calc first.any (fun item => tooDeep item.2.nesting)
        = (ordered first).any fun item => tooDeep item.2.nesting :=
          (sortBy_perm _ first).symm.any_eq
      _ = (ordered second).any fun item => tooDeep item.2.nesting := hordered
      _ = second.any fun item => tooDeep item.2.nesting := (sortBy_perm _ second).any_eq
  have hempty : first.isEmpty = second.isEmpty := by
    have hlength := halike.length_eq
    unfold ordered at hlength
    rw [(sortBy_perm _ _).length_eq, (sortBy_perm _ _).length_eq] at hlength
    rw [Bool.eq_iff_iff, List.isEmpty_iff_length_eq_zero, List.isEmpty_iff_length_eq_zero, hlength]
  have hcanonical : Rule.canonical first = Rule.canonical second := Json.write_inj htext
  unfold Rule.versionOf Rule.checkCanonical
  rw [hempty, hdeep fun nesting => decide (StoredCondition.maxNesting < nesting), hcanonical,
    htext]

/-- Rules with one canonical text compile to the same levels in some order, or fail
alike. -/
theorem compileLevels_of_canonicalText {first second : List (Tier × Rule)}
    (htext : Rule.canonicalText first = Rule.canonicalText second) :
    AlikeInOrder (compileLevels first) (compileLevels second) := by
  have honly (item : Tier × Rule) : FailsOnlyWith thresholdOverflow
      (do return (item.1, ← Expression.compile item.2.conditions) :
        Outcome (Tier × Expression)) :=
    (failsOnlyWith_compile item.2.conditions).bind fun _ => failsOnlyWith_ok _ _
  have hordered : compileLevels (ordered first) = compileLevels (ordered second) := by
    refine mapM_forall₂ ?_ (rulesAlike_of_canonicalText htext)
    rintro ⟨tier, rule⟩ ⟨tier', rule'⟩ ⟨htier, hconditions⟩
    dsimp only at htier hconditions ⊢
    rw [htier, Expression.compile_alike hconditions]
  have hfirst : AlikeInOrder (compileLevels first) (compileLevels (ordered first)) :=
    mapM_perm honly (sortBy_perm _ _).symm
  have hsecond : AlikeInOrder (compileLevels (ordered second)) (compileLevels second) :=
    mapM_perm honly (sortBy_perm _ _)
  rw [hordered] at hfirst
  exact hfirst.trans hsecond

/-- A built rule set has each tier once. -/
theorem nodup_levels {rules : List Rule} {set : RuleSet} (hbuild : build rules = .ok set) :
    (set.levels.map (·.1)).Nodup := by
  obtain ⟨first, hfirst, hchosen, -, -⟩ := build_ok hbuild
  have htiers : set.chosen.map (·.tier) = first.map (·.1) := by
    refine mapM_keys Prod.fst ChosenRule.tier (fun item chosen hrule => ?_) hchosen
    obtain ⟨expression, -, rfl⟩ := map_ok hrule
    rfl
  rw [levels, List.map_map]
  exact htiers ▸ nodup_firstOfLevels hfirst

/-- Rules with one canonical text build rule sets that classify alike, or fail to
build alike. -/
theorem build_of_canonicalText {rules rules' : List Rule} {first first' : List (Tier × Rule)}
    (hfirst : firstOfLevels rules = .ok first) (hfirst' : firstOfLevels rules' = .ok first')
    (htext : Rule.canonicalText first = Rule.canonicalText first') :
    (∃ set set', build rules = .ok set ∧ build rules' = .ok set' ∧
        ∀ metrics, set.classify metrics = set'.classify metrics) ∨
      ∃ failure, build rules = .error failure ∧ build rules' = .error failure := by
  have halike := (compileLevels_of_canonicalText htext).andCheck (Rule.versionOf first)
  rw [← build_levels hfirst, versionOf_of_canonicalText htext, ← build_levels hfirst'] at halike
  rcases halike.cases_map with ⟨set, set', hset, hset', hperm⟩ | hfailure
  · exact .inl ⟨set, set', hset, hset', classify_perm hperm (nodup_levels hset)⟩
  · exact .inr hfailure

/-- Rule sets whose rules have one canonical text, or that are both without rules,
decide alike: they come to one tier or to one failure for all metrics, and for all
counts under every policy. -/
theorem classify_eq_of_canonicalText {rules rules' : List Rule}
    {first first' : List (Tier × Rule)} (hfirst : firstOfLevels rules = .ok first)
    (hfirst' : firstOfLevels rules' = .ok first')
    (htext : Rule.canonicalText first = Rule.canonicalText first' ∨
      (first = [] ∧ first' = [])) :
    (∀ metrics : SkillMetrics,
      (do (← build rules).classify metrics) = (do (← build rules').classify metrics)) ∧
    ∀ (policy : String) (counts : Counts),
      classifyCounts rules policy counts = classifyCounts rules' policy counts := by
  have hsame : Rule.canonicalText first = Rule.canonicalText first' := by
    rcases htext with h | ⟨h, h'⟩
    · exact h
    · rw [h, h']
  have hmetrics (metrics : SkillMetrics) :
      (do (← build rules).classify metrics) = (do (← build rules').classify metrics) := by
    rcases build_of_canonicalText hfirst hfirst' hsame with
      ⟨set, set', hset, hset', hclassify⟩ | ⟨failure, hfailure, hfailure'⟩
    · rw [hset, hset']
      exact hclassify metrics
    · rw [hfailure, hfailure']
  refine ⟨hmetrics, ?_⟩
  intro policy counts
  unfold classifyCounts
  cases counts.metricsUnderName policy with
  | error failure => rfl
  | ok metrics => exact hmetrics metrics

/-- A rule as it is loaded from a text with empty fields, in front of a rule for
the same level that does not count. -/
def spelledOut : List Rule :=
  [⟨"r", "expert", [⟨some "high%", some ">=", .ofInt 80, some "", some "", [], some ""⟩], 0, true⟩,
    ⟨"s", "expert", [], 1, true⟩]

/-- The same rule with the fields missing. -/
def pared : List Rule :=
  [⟨"r", "expert", [⟨some "high%", some ">=", .ofInt 80, none, none, [], none⟩], 7, true⟩]

/-- Empty fields and rules that do not count have no effect. -/
theorem classify_spelledOut :
    (∀ metrics : SkillMetrics, (do (← build spelledOut).classify metrics) =
      (do (← build pared).classify metrics)) ∧
    ∀ (policy : String) (counts : Counts),
      classifyCounts spelledOut policy counts = classifyCounts pared policy counts := by
  have hfirst : firstOfLevels spelledOut = .ok [(.expert, spelledOut.head (by decide))] := rfl
  have hfirst' : firstOfLevels pared = .ok [(.expert, pared.head (by decide))] := rfl
  apply classify_eq_of_canonicalText hfirst hfirst'
  left
  rfl

end RuleSet

end SkillTiers
