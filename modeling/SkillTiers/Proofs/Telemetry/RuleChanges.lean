/-
# Events that are no changes of the rules

Each event adds to the samples of one meter. The changes of the rules have a meter of
their own, and no other meter lists its counts under the same name, so the counts of rule
changes stay as they are when anything else is counted or timed.
-/

import SkillTiers.Proofs.Outcome
import SkillTiers.Telemetry.Metrics

namespace SkillTiers

namespace Metrics

/-- The name under which changes of the rules are counted. -/
def ruleChangesName : String :=
  "rule_changes_total"

/-- The samples of rule changes, with their counts. -/
def ruleChanges (metrics : Metrics) : List (Sample × Nat) :=
  metrics.counts.filter (·.1.name == ruleChangesName)

/-- What happens to the metrics leaves the samples of rule changes as they are. -/
def KeepsRuleChanges (change : Metrics → Metrics) : Prop :=
  ∀ metrics, (change metrics).ruleChanges = metrics.ruleChanges

/-- A sample of another name adds nothing to them. -/
theorem ruleChanges_add {sample : Sample} (hname : sample.name ≠ ruleChangesName)
    (metrics : Metrics) (amount : Nat) :
    (metrics.add sample amount).ruleChanges = metrics.ruleChanges := by
  unfold add ruleChanges
  dsimp only
  split
  · induction metrics.counts with
    | nil => rfl
    | cons entry rest ih =>
        by_cases hsame : entry.1 = sample
        · simpa [hsame, hname] using ih
        · by_cases hchange : entry.1.name = ruleChangesName
          · simpa [hsame, hchange] using ih
          · simpa [hsame, hchange] using ih
  · simp [hname]

/-- Only the meter of rule changes lists its counts under their name. -/
theorem sampleName_ne {meter : Meter} {service : String}
    (hmeter : meter ∈ Meter.ofService service) (hname : meter.name ≠ ruleChangesName) :
    meter.sampleName ≠ ruleChangesName := by
  have hall : ∀ meter ∈ Meter.common ++ Meter.classification,
      meter.sampleName = ruleChangesName → meter.name = ruleChangesName := by decide
  refine fun hsample => hname (hall meter ?_ hsample)
  unfold Meter.ofService at hmeter
  split at hmeter
  · exact hmeter
  · exact List.mem_append_left _ hmeter

/-- A sample of a meter has its name. -/
theorem name_of_sample {meter : Meter} {labels : List (String × String)} {sample : Sample}
    (hsample : meter.sample labels = .ok sample) : sample.name = meter.sampleName := by
  unfold Meter.sample at hsample
  dsimp only at hsample
  split at hsample
  · cases hsample
  · split at hsample
    · cases hsample
    · split at hsample
      · cases hsample
        rfl
      · cases hsample

/-- What is recorded under another name is no change of the rules. -/
theorem keepsRuleChanges_record {name : String} (hname : name ≠ ruleChangesName)
    (kind : MeterKind) (labels : List (String × String)) (amount : Outcome Nat) :
    KeepsRuleChanges fun metrics => (metrics.record kind name labels amount).2 := by
  intro metrics
  dsimp only
  unfold record
  cases hfound : metrics.meter? name with
  | none => rfl
  | some meter =>
      have hmeter : meter.name ≠ ruleChangesName := by
        have hsame := List.find?_some hfound
        rwa [beq_iff_eq.mp hsame]
      dsimp only
      cases hsample : meter.sample labels with
      | error failure => rfl
      | ok sample =>
          have hother : sample.name ≠ ruleChangesName := by
            rw [name_of_sample hsample]
            exact sampleName_ne (List.mem_of_find?_eq_some hfound) hmeter
          have hadd := ruleChanges_add hother metrics
          cases amount with
          | error failure => exact hadd 0
          | ok amount =>
              dsimp only
              split
              · exact hadd amount
              · exact hadd 0

theorem KeepsRuleChanges.comp {first second : Metrics → Metrics}
    (hsecond : KeepsRuleChanges second) (hfirst : KeepsRuleChanges first) :
    KeepsRuleChanges fun metrics => second (first metrics) :=
  fun metrics => (hsecond (first metrics)).trans (hfirst metrics)

theorem keepsRuleChanges_counted {name : String} (hname : name ≠ ruleChangesName)
    (labels : List (String × String)) : KeepsRuleChanges (counted name labels) :=
  keepsRuleChanges_record hname _ _ _

theorem keepsRuleChanges_httpRequest (method path status : String) :
    KeepsRuleChanges (httpRequest method path status) :=
  (keepsRuleChanges_record (by decide) _ _ _).comp (keepsRuleChanges_counted (by decide) _)

theorem keepsRuleChanges_healthCheck (status : String) : KeepsRuleChanges (healthCheck status) :=
  keepsRuleChanges_counted (by decide) _

theorem keepsRuleChanges_error (code : String) (service : Option String) :
    KeepsRuleChanges (error code service) :=
  fun metrics => keepsRuleChanges_counted (by decide) _ metrics

theorem keepsRuleChanges_classification (scope tier : String) :
    KeepsRuleChanges (classification scope tier) :=
  keepsRuleChanges_counted (by decide) _

theorem keepsRuleChanges_classificationTime (scope : String) :
    KeepsRuleChanges (classificationTime scope) :=
  keepsRuleChanges_record (by decide) _ _ _

theorem keepsRuleChanges_cacheLookup (hit : Bool) (cache : String) :
    KeepsRuleChanges (cacheLookup hit cache) := by
  cases hit
  · exact keepsRuleChanges_counted (by decide) _
  · exact keepsRuleChanges_counted (by decide) _

end Metrics

end SkillTiers
