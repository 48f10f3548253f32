/-
# What an event adds to the counts

Decisions, look-ups in the cache, changes of the rules and failures each have a meter of
their own, and an event of one of these kinds is an entry. `Metrics.Enters` says that
metrics have come from others by certain entries: each count is what it was and as many
more as there are entries of it. Entries one after another are one list of entries. The
other meters list their counts under other names, and so enter nothing.
-/

import SkillTiers.Proofs.Sorting
import SkillTiers.Proofs.Telemetry.RuleChanges

namespace SkillTiers

/-- An event that is counted under its own sample. -/
inductive Entry where
  /-- A tier has been decided. -/
  | decided (scope tier : String)
  /-- The cache has been asked for a decision and has had it, or not. -/
  | asked (isFound : Bool)
  /-- The rules have been changed. -/
  | changed (operation : String)
  /-- A request has failed. -/
  | failed (code : String)
deriving DecidableEq

namespace Entry

/-- The sample under which a service counts the entry. -/
def sample (service : String) : Entry → Sample
  | .decided scope tier => ⟨"classifications_total", [("scope", scope), ("tier", tier)]⟩
  | .asked isFound =>
    ⟨if isFound then "cache_hits_total" else "cache_misses_total",
      [("cache_type", Metrics.resultCache)]⟩
  | .changed operation => ⟨"rule_changes_total", [("operation", operation)]⟩
  | .failed code => ⟨"errors_total", [("error_type", code), ("service", service)]⟩

/-- The names under which entries are counted. -/
def names : List String :=
  ["classifications_total", "cache_hits_total", "cache_misses_total", "rule_changes_total",
    "errors_total"]

theorem name_mem_names (service : String) (entry : Entry) :
    (entry.sample service).name ∈ names := by
  cases entry with
  | asked isFound => cases isFound <;> simp [sample, names]
  | _ => simp [sample, names]

/-- Different entries have different samples. -/
theorem sample_inj {service : String} {first second : Entry} :
    first.sample service = second.sample service ↔ first = second := by
  constructor
  · intro hsame
    cases first with
    | asked isFound =>
        cases second with
        | asked isFound' => cases isFound <;> cases isFound' <;> simp_all [sample]
        | _ => cases isFound <;> simp [sample] at hsame
    | _ =>
        cases second with
        | asked isFound => cases isFound <;> simp [sample] at hsame
        | _ => simp_all [sample]
  · exact congrArg (sample service)

end Entry

namespace Metrics

/-- How often an entry has been counted. -/
def tally (metrics : Metrics) (entry : Entry) : Nat :=
  metrics.count (entry.sample metrics.service)

/-- What is counted for a sample goes to that sample and to no other. -/
theorem count_add (metrics : Metrics) (sample other : Sample) (amount : Nat) :
    (metrics.add sample amount).count other =
      metrics.count other + if sample = other then amount else 0 := by
  unfold add count
  dsimp only
  cases hthere : metrics.counts.any (·.1 == sample) with
  | true =>
      rw [if_pos rfl, List.find?_map]
      have hkeys : (((·.1 == other) : Sample × Nat → Bool) ∘ fun entry =>
          if entry.1 == sample then (sample, entry.2 + amount) else entry) = (·.1 == other) := by
        funext entry
        by_cases hsame : entry.1 = sample
        · simp [hsame]
        · simp [hsame]
      rw [hkeys]
      cases hfound : metrics.counts.find? (·.1 == other) with
      | some entry =>
          have hother := List.find?_some hfound
          rw [beq_iff_eq] at hother
          by_cases hsame : sample = other
          · simp [hother, hsame]
          · simp [hother, hsame, Ne.symm hsame]
      | none =>
          have hsame : sample ≠ other := by
            rintro rfl
            obtain ⟨entry, hmem, hentry⟩ := List.any_eq_true.mp hthere
            exact List.find?_eq_none.mp hfound entry hmem hentry
          simp [hsame]
  | false =>
      rw [if_neg Bool.false_ne_true, List.find?_append]
      cases hfound : metrics.counts.find? (·.1 == other) with
      | some entry =>
          have hsame : sample ≠ other := by
            rintro rfl
            have hentry := List.find?_some hfound
            exact List.any_eq_false.mp hthere entry (List.mem_of_find?_eq_some hfound) hentry
          simp [hsame]
      | none =>
          by_cases hsame : sample = other
          · simp [hsame]
          · simp [hsame]

/-- Metrics come from others by these entries: each of them is counted once more, and every
other entry is counted as often as before. Only the classification service has all meters
that this takes. -/
structure Enters (entries : List Entry) (now left : Metrics) : Prop where
  service : left.service = now.service
  tally : now.service = Meter.classificationService → ∀ entry,
    left.tally entry = now.tally entry + entries.count entry

variable {first second third now : Metrics} {entries more : List Entry}

theorem enters_refl (metrics : Metrics) : Enters [] metrics metrics :=
  ⟨rfl, fun _ _ => rfl⟩

theorem Enters.trans (hfirst : Enters entries first second) (hsecond : Enters more second third) :
    Enters (entries ++ more) first third where
  service := hsecond.service.trans hfirst.service
  tally hnamed entry := by
    rw [hsecond.tally (hfirst.service.trans hnamed), hfirst.tally hnamed, List.count_append,
      Nat.add_assoc]

/-- What is added to a sample of another name is no entry. -/
theorem enters_add {sample : Sample} (hname : sample.name ∉ Entry.names) (metrics : Metrics)
    (amount : Nat) : Enters [] metrics (metrics.add sample amount) where
  service := rfl
  tally _ entry := by
    have hsample : sample ≠ entry.sample metrics.service := by
      rintro rfl
      exact hname (entry.name_mem_names _)
    have hcount := count_add metrics sample (entry.sample metrics.service) amount
    rw [if_neg hsample] at hcount
    exact hcount

/-- Other meters than those of entries have samples of other names. -/
theorem sampleName_not_mem_names {meter : Meter} {service : String}
    (hmeter : meter ∈ Meter.ofService service) (hname : meter.name ∉ Entry.names) :
    meter.sampleName ∉ Entry.names := by
  have hall : ∀ meter ∈ Meter.common ++ Meter.classification,
      meter.sampleName ∈ Entry.names → meter.name ∈ Entry.names := by decide
  refine fun hsample => hname (hall meter ?_ hsample)
  unfold Meter.ofService at hmeter
  split at hmeter
  · exact hmeter
  · exact List.mem_append_left _ hmeter

/-- What is recorded under another name is no entry. -/
theorem enters_record {name : String} (hname : name ∉ Entry.names) (kind : MeterKind)
    (labels : List (String × String)) (amount : Outcome Nat) (metrics : Metrics) :
    Enters [] metrics (metrics.record kind name labels amount).2 := by
  unfold record
  cases hfound : metrics.meter? name with
  | none => exact enters_refl metrics
  | some meter =>
      have hsame := List.find?_some hfound
      rw [beq_iff_eq] at hsame
      dsimp only
      cases hsample : meter.sample labels with
      | error failure => exact enters_refl metrics
      | ok sample =>
          have hother : sample.name ∉ Entry.names := by
            rw [name_of_sample hsample]
            exact sampleName_not_mem_names (List.mem_of_find?_eq_some hfound) (hsame ▸ hname)
          have hadd := enters_add hother metrics
          cases amount with
          | error failure => exact hadd 0
          | ok amount =>
              dsimp only
              split
              · exact hadd amount
              · exact hadd 0

/-- Recording leaves the name of the service. -/
theorem service_record (kind : MeterKind) (name : String) (labels : List (String × String))
    (amount : Outcome Nat) (metrics : Metrics) :
    (metrics.record kind name labels amount).2.service = metrics.service := by
  unfold record
  split
  · rfl
  · split
    · rfl
    · split <;> rfl
    · rfl

/-- Labels that are all those of a meter, in order, make a sample of it. -/
theorem sample_of_sorted {meter : Meter} {labels : List (String × String)}
    (hsome : labels ≠ []) (hsorted : labels.Pairwise fun a b => a.1 ≤ b.1)
    (hlabels : labels.map (·.1) = meter.labels) :
    meter.sample labels = .ok ⟨meter.sampleName, labels⟩ := by
  have hsort : Meter.sortLabels labels = labels := sortBy_key_of_pairwise Prod.fst hsorted
  have hlabelled : meter.labels.isEmpty = false := by
    simpa [← hlabels] using hsome
  have hnonempty : labels.isEmpty = false := by simpa using hsome
  simp [Meter.sample, hsort, hlabelled, hnonempty, hlabels]

/-- What is counted with the meter and the labels of an entry is that entry. -/
theorem enters_counted {name : String} {labels : List (String × String)} {entry : Entry}
    {meter : Meter}
    (hmeter : (Meter.ofService Meter.classificationService).find? (·.name == name) = some meter)
    (hkind : meter.kind = .counter)
    (hentry : entry.sample Meter.classificationService = ⟨meter.sampleName, labels⟩)
    (hsome : labels ≠ []) (hsorted : labels.Pairwise fun a b => a.1 ≤ b.1)
    (hlabels : labels.map (·.1) = meter.labels)
    (metrics : Metrics) : Enters [entry] metrics (metrics.counted name labels) where
  service := service_record _ _ _ _ metrics
  tally hnamed other := by
    have hcounted : metrics.counted name labels = metrics.add (entry.sample metrics.service) 1 := by
      unfold counted record meter?
      rw [hnamed, hmeter, hentry]
      dsimp only
      rw [sample_of_sorted hsome hsorted hlabels]
      dsimp only
      rw [hkind]
      rfl
    have hcount := count_add metrics (entry.sample metrics.service) (other.sample metrics.service) 1
    simp only [Entry.sample_inj] at hcount
    rw [hcounted, List.count_singleton]
    simp only [beq_iff_eq]
    exact hcount

theorem enters_classification (scope tier : String) (metrics : Metrics) :
    Enters [.decided scope tier] metrics (metrics.classification scope tier) :=
  enters_counted rfl rfl rfl (List.cons_ne_nil _ _) (by simp) rfl metrics

theorem enters_cacheLookup (isFound : Bool) (metrics : Metrics) :
    Enters [.asked isFound] metrics (metrics.cacheLookup isFound resultCache) := by
  cases isFound
  · exact enters_counted rfl rfl rfl (List.cons_ne_nil _ _) (List.pairwise_singleton _ _) rfl
      metrics
  · exact enters_counted rfl rfl rfl (List.cons_ne_nil _ _) (List.pairwise_singleton _ _) rfl
      metrics

theorem enters_ruleChange (operation : String) (metrics : Metrics) :
    Enters [.changed operation] metrics (metrics.ruleChange operation) :=
  enters_counted rfl rfl rfl (List.cons_ne_nil _ _) (List.pairwise_singleton _ _) rfl metrics

/-- An error is counted for the service in which it occurs. -/
theorem enters_error (code : String) (metrics : Metrics) :
    Enters [.failed code] metrics (metrics.error code none) where
  service := service_record _ _ _ _ metrics
  tally hnamed := by
    have herror : metrics.error code none = metrics.counted "errors_total"
        [("error_type", code), ("service", Meter.classificationService)] := by
      rw [← hnamed]
      rfl
    rw [herror]
    exact (enters_counted rfl rfl rfl (List.cons_ne_nil _ _) (by simp) rfl metrics).tally hnamed

theorem enters_httpRequest (method path status : String) (metrics : Metrics) :
    Enters [] metrics (metrics.httpRequest method path status) :=
  (enters_record (by decide) _ _ _ metrics).trans (enters_record (by decide) _ _ _ _)

theorem enters_healthCheck (status : String) (metrics : Metrics) :
    Enters [] metrics (metrics.healthCheck status) :=
  enters_record (by decide) _ _ _ metrics

theorem enters_classificationTime (scope : String) (metrics : Metrics) :
    Enters [] metrics (metrics.classificationTime scope) :=
  enters_record (by decide) _ _ _ metrics

end Metrics

end SkillTiers
