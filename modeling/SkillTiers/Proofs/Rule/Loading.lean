/-
# Loading rules

Rules are built before they are put in use, and then all at once. So a load that fails
leaves the engine as it is, wherever it fails, and calls leave nothing behind but the list of
rules that is in use: after any calls the engine is the one that is made with the list that
was loaded last, or with no rules where they were cleared since
(`Engine.after_eq_ofRules`). All that it tells, the rules, the rule for each level, the
version and the tiers, it tells from that list.
-/

import SkillTiers.Proofs.Rule.Choice
import SkillTiers.Rule.Engine
import SkillTiers.Rule.Seed

namespace SkillTiers

namespace Rule

/-- Something keeps the rules from being loaded: the level of an active rule, or a threshold
of a rule that counts, or there is no room for such a rule in a canonical text. -/
inductive Unloadable (rules : List Rule) : Prop where
  | level {rule : Rule} (hmem : rule ∈ rules) (hactive : rule.isActive = true)
      (hlevel : Tier.ofName? rule.level = none)
  | threshold {tier : Tier} {rule : Rule} (hfirst : firstFor? rules tier = some rule)
      (hrange : ¬ rule.HasThresholdsInRange)
  | text {tier : Tier} {rule : Rule} (hfirst : firstFor? rules tier = some rule)
      (hroom : ¬ rule.IsWritable)

theorem Unloadable.exists_failure {rules : List Rule} (hunloadable : Unloadable rules) :
    ∃ failure, RuleSet.build rules = .error failure := by
  cases hbuild : RuleSet.build rules with
  | error failure => exact ⟨failure, rfl⟩
  | ok set =>
      have hlevels :=
        RuleSet.levelsExist_of_firstOfLevels ⟨_, (RuleSet.build_counting hbuild).1⟩
      cases hunloadable with
      | level hmem hactive hlevel =>
          obtain ⟨tier, htier⟩ := hlevels _ hmem hactive
          rw [Rule.tier, Tier.ofLevel, hlevel] at htier
          cases htier
      | threshold hfirst hrange =>
          have hloads := (RuleSet.isResult_build_iff hlevels).mp ⟨set, hbuild⟩ _ _ hfirst
          exact absurd ((Expression.isResult_compile _).mp hloads.1) hrange
      | text hfirst hroom =>
          have hloads := (RuleSet.isResult_build_iff hlevels).mp ⟨set, hbuild⟩ _ _ hfirst
          exact absurd hloads.2 hroom

end Rule

/-- The rules of a set that is built are those of the list, each id once. -/
theorem RuleSet.rules_of_build {rules : List Rule} {set : RuleSet}
    (hbuild : build rules = .ok set) : set.rules = byId rules := by
  obtain ⟨-, -, -, hrules, -⟩ := build_ok hbuild
  exact hrules

namespace Engine

/-- The list that a call puts in use. A load that fails puts none in use. -/
def Call.puts? : Call → Option (List Rule)
  | .load rules => (RuleSet.build rules).toOption.map fun _ => rules
  | .clear => some []

/-- The list that was loaded last, from an initial one on; the empty one where the rules were
cleared since. -/
def lastLoaded (initial : List Rule) (calls : List Call) : List Rule :=
  (calls.filterMap Call.puts?).getLastD initial

/-- The engine after calls. -/
def after (engine : Engine) (calls : List Call) : Engine :=
  calls.foldl (fun engine call => (engine.call call).1) engine

/-- What the engine tells is told by a policy and a list of rules. -/
structure Serves (engine : Engine) (given : ZeroTotalPolicy) (list : List Rule) : Prop where
  policy : engine.policy = given
  rules : engine.ruleSet.rules = RuleSet.byId list
  levels : ∀ tier, (engine.ruleSet.chosenFor? tier).map (·.rule) = Rule.firstFor? list tier
  version : ∃ first, RuleSet.firstOfLevels list = .ok first ∧
    Rule.versionOf first = .ok engine.version
  classify : ∀ counts, engine.classify counts = classifyCounts list given.name counts

variable {policy : ZeroTotalPolicy} {rules initial : List Rule} {engine : Engine}

/-! ### Engines that are made with rules -/

/-- An empty list is as good as loaded. -/
theorem ofRules_eq (policy : ZeroTotalPolicy) (rules : List Rule) :
    ofRules policy rules = do return ⟨policy, ← RuleSet.build rules⟩ := by
  cases rules with
  | nil => rfl
  | cons rule rest => rfl

theorem ofRules_eq_ok :
    ofRules policy rules = .ok engine ↔
      engine.policy = policy ∧ RuleSet.build rules = .ok engine.ruleSet := by
  rw [ofRules_eq]
  constructor
  · intro hengine
    obtain ⟨set, hbuild, rfl⟩ := map_ok hengine
    exact ⟨rfl, hbuild⟩
  · rintro ⟨rfl, hbuild⟩
    rw [hbuild]
    rfl

/-- An engine that is made with rules tells what these say. -/
theorem serves_of_ofRules (hengine : ofRules policy rules = .ok engine) :
    engine.Serves policy rules := by
  obtain ⟨hpolicy, hbuild⟩ := ofRules_eq_ok.mp hengine
  refine ⟨hpolicy, RuleSet.rules_of_build hbuild, fun tier => ?_,
    ⟨_, RuleSet.build_counting hbuild⟩, fun counts => ?_⟩
  · rcases RuleSet.chosenFor?_cases hbuild tier with
      ⟨rule, expression, hrule, -, hchosen⟩ | ⟨hnone, hchosen⟩
    · rw [hrule, hchosen]
      rfl
    · rw [hnone, hchosen]
      rfl
  · rw [classifyCounts, Counts.metricsUnderName_name, hbuild, ← hpolicy]
    rfl

/-! ### Calls -/

/-- A load has what a new engine with the rules has. -/
theorem load_eq_ofRules (engine : Engine) (rules : List Rule) :
    engine.load rules = ofRules engine.policy rules :=
  (ofRules_eq engine.policy rules).symm

theorem call_load_ok {loaded : Engine} (hload : engine.load rules = .ok loaded) :
    engine.call (.load rules) = (loaded, .ok (some loaded.version)) := by
  rw [call, hload]

theorem call_load_error {failure : Failure} (hload : engine.load rules = .error failure) :
    engine.call (.load rules) = (engine, .error failure) := by
  rw [call, hload]

theorem puts?_load_of_isResult (hbuild : IsResult (RuleSet.build rules)) :
    (Call.load rules).puts? = some rules := by
  obtain ⟨set, hbuild⟩ := hbuild
  rw [Call.puts?, hbuild]
  rfl

theorem puts?_load_of_error {failure : Failure} (hbuild : RuleSet.build rules = .error failure) :
    (Call.load rules).puts? = none := by
  rw [Call.puts?, hbuild]
  rfl

theorem puts?_load_of_unloadable (hunloadable : Rule.Unloadable rules) :
    (Call.load rules).puts? = none := by
  obtain ⟨failure, hbuild⟩ := hunloadable.exists_failure
  exact puts?_load_of_error hbuild

/-- A call makes the engine the one of the list that it puts in use, if it does, and leaves it
as it is otherwise. -/
theorem call_of_ofRules (hengine : ofRules policy rules = .ok engine) (call : Call) :
    ofRules policy (call.puts?.getD rules) = .ok (engine.call call).1 := by
  obtain ⟨hpolicy, -⟩ := ofRules_eq_ok.mp hengine
  cases call with
  | clear => exact ofRules_eq_ok.mpr ⟨hpolicy, rfl⟩
  | load others =>
      have hload := load_eq_ofRules engine others
      rw [hpolicy] at hload
      cases hbuild : RuleSet.build others with
      | error failure =>
          rw [ofRules_eq, hbuild] at hload
          rw [puts?_load_of_error hbuild, call_load_error hload]
          exact hengine
      | ok set =>
          rw [ofRules_eq, hbuild] at hload
          rw [puts?_load_of_isResult ⟨set, hbuild⟩, call_load_ok hload]
          exact ofRules_eq_ok.mpr ⟨rfl, hbuild⟩

/-- A call that fails leaves the engine as it is. -/
theorem call_of_failure {call : Call} {failure : Failure}
    (hfails : (engine.call call).2 = .error failure) : (engine.call call).1 = engine := by
  cases call with
  | clear => cases hfails
  | load others =>
      cases hload : engine.load others with
      | error failure => rw [call_load_error hload]
      | ok loaded =>
          rw [call_load_ok hload] at hfails
          cases hfails

/-- Loading fails where something keeps the rules from being loaded. -/
theorem call_of_unloadable (engine : Engine) {others : List Rule}
    (hunloadable : Rule.Unloadable others) :
    ∃ failure, engine.call (.load others) = (engine, .error failure) := by
  obtain ⟨failure, hbuild⟩ := hunloadable.exists_failure
  refine ⟨failure, call_load_error ?_⟩
  rw [load_eq_ofRules, ofRules_eq, hbuild]
  rfl

/-- The list loaded last is that of the later calls, from the list of the first call on. -/
theorem lastLoaded_cons (initial : List Rule) (call : Call) (calls : List Call) :
    lastLoaded initial (call :: calls) = lastLoaded (call.puts?.getD initial) calls := by
  unfold lastLoaded
  cases hputs : call.puts? with
  | none => rw [List.filterMap_cons_none hputs, Option.getD_none]
  | some rules => rw [List.filterMap_cons_some hputs, Option.getD_some, List.getLastD_cons]

/-- After calls the engine is that of the list loaded last. -/
theorem after_of_ofRules (hengine : ofRules policy initial = .ok engine) (calls : List Call) :
    ofRules policy (lastLoaded initial calls) = .ok (engine.after calls) := by
  induction calls generalizing initial engine with
  | nil => exact hengine
  | cons call rest ih =>
      rw [lastLoaded_cons]
      exact ih (call_of_ofRules hengine call)

/-- After any calls, an engine is the one that is made with the list loaded last, and tells
what this list says. A call that fails then changes nothing, and a load of rules that cannot
be loaded fails. -/
theorem after_eq_ofRules (hengine : ofRules policy initial = .ok engine) (calls : List Call) :
    ofRules policy (lastLoaded initial calls) = .ok (engine.after calls) ∧
    (engine.after calls).Serves policy (lastLoaded initial calls) ∧
    (∀ call failure, ((engine.after calls).call call).2 = .error failure →
      ((engine.after calls).call call).1 = engine.after calls) ∧
    ∀ rules, Rule.Unloadable rules → ∃ failure,
      (engine.after calls).call (.load rules) = (engine.after calls, .error failure) := by
  have hafter := after_of_ofRules hengine calls
  exact ⟨hafter, serves_of_ofRules hafter, fun _ _ => call_of_failure,
    fun _ => call_of_unloadable _⟩

/-- A rule for experts, and a rule with a threshold that is no double. -/
def outOfRange : List Rule :=
  [RuleSet.expertRule "x" 50,
    { RuleSet.expertRule "y" (10 ^ 400 : Nat) with level := "intermediate" }]

/-- A rule for experts, and a rule for a level that does not exist. -/
def unknownLevel : List Rule :=
  [RuleSet.expertRule "x" 50, { RuleSet.expertRule "y" 0 with level := "guru" }]

theorem unloadable_outOfRange : Rule.Unloadable outOfRange := by
  have hfirst : Rule.firstFor? outOfRange .intermediate = outOfRange[1]? := rfl
  refine .threshold hfirst fun hrange => ?_
  have hbound := hrange _ List.mem_cons_self rfl _ rfl
  rw [Int.natAbs_natCast] at hbound
  exact absurd hbound (by decide +kernel)

theorem unloadable_unknownLevel : Rule.Unloadable unknownLevel :=
  .level (List.mem_cons_of_mem _ List.mem_cons_self) rfl rfl

/-- Calls of which the first and the last fail. -/
def troubled : List Call :=
  [.load outOfRange, .clear, .load [RuleSet.expertRule "x" 75], .load unknownLevel]

/-- What is left of them, and of the seed rules, is the one list that was loaded. -/
theorem after_eq_ofRules_troubled :
    ∃ engine, ofRules .nan (Seed.rules 1) = .ok engine ∧
      ofRules .nan [RuleSet.expertRule "x" 75] = .ok (engine.after troubled) ∧
      (engine.after troubled).ruleSet.rules = [RuleSet.expertRule "x" 75] ∧
      ∃ failure, (engine.after troubled).call (.load outOfRange) =
        (engine.after troubled, .error failure) := by
  have hseed : IsResult (ofRules .nan (Seed.rules 1)) := isResult_of_isSome (by decide +kernel)
  have hsingle : IsResult (RuleSet.build [RuleSet.expertRule "x" 75]) :=
    isResult_of_isSome (by decide +kernel)
  have hlast : lastLoaded (Seed.rules 1) troubled = [RuleSet.expertRule "x" 75] := by
    simp only [troubled, lastLoaded_cons, puts?_load_of_unloadable unloadable_outOfRange,
      puts?_load_of_unloadable unloadable_unknownLevel, puts?_load_of_isResult hsingle]
    rfl
  obtain ⟨engine, hengine⟩ := hseed
  obtain ⟨hafter, hserves, -, hrefuses⟩ := after_eq_ofRules hengine troubled
  rw [hlast] at hafter hserves
  exact ⟨engine, hengine, hafter, hserves.rules, hrefuses _ unloadable_outOfRange⟩

end Engine

end SkillTiers
