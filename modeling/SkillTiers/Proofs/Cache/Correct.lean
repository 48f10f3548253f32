/-
# Correct decisions

The decisions on a server are correct for some rule sets when each one that is kept
under a key of one of them is the tier that this rule set gives. Dropping decisions
leaves the others correct. A decision of one of the rule sets may be added, since a
rule set with the same version decides alike; and a tier that is found is the tier
that the rule set of the key gives.
-/

import SkillTiers.Proofs.Cache.Drops
import SkillTiers.Proofs.Cache.Key
import SkillTiers.Proofs.Rule.Digest
import SkillTiers.Rule.Engine

namespace SkillTiers

/-- The word for a tier names it. -/
theorem Tier.ofName?_name (tier : Tier) : Tier.ofName? tier.name = some tier := by
  cases tier <;> rfl

/-- The decision on counts depends on the policy and on what the rule set decides. -/
theorem Engine.classify_congr {engine other : Engine} (hpolicy : engine.policy = other.policy)
    (hclassify : ∀ metrics, engine.ruleSet.classify metrics = other.ruleSet.classify metrics)
    (counts : Counts) : engine.classify counts = other.classify counts := by
  change (counts.metrics engine.policy >>= engine.ruleSet.classify) =
    (counts.metrics other.policy >>= other.ruleSet.classify)
  rw [hpolicy, funext hclassify]

namespace CacheServer

/-- What is kept under keys of these rule sets is what they decide. -/
def Correct (sets : Set RuleSet) (server : CacheServer) : Prop :=
  ∀ entry ∈ server.entries, ∀ set ∈ sets, ∀ (policy : ZeroTotalPolicy) (whole : WholeCounts),
    entry.key = ResultCache.keyText set.version policy.name whole.toCounts →
      ∃ tier, Engine.classify ⟨policy, set⟩ whole.toCounts = .ok tier ∧ entry.value = tier.name

/-- A server has gained at most a tier under a key. -/
def Gains (key : String) (tier : Tier) (server left : CacheServer) : Prop :=
  ∀ entry ∈ left.entries, entry ∈ server.entries ∨ (entry.key = key ∧ entry.value = tier.name)

variable {sets : Set RuleSet} {server left : CacheServer}

/-- A server without decisions is correct. -/
theorem correct_of_no_key
    (hnone : ∀ entry ∈ server.entries,
      ResultCache.keyStart.toList.isPrefixOf entry.key.toList = false) :
    server.Correct sets := by
  intro entry hmem set _ policy whole hkey
  have hprefix := ResultCache.keyStart_isPrefixOf_keyText set.version policy.name whole.toCounts
  rw [← hkey, hnone entry hmem] at hprefix
  cases hprefix

theorem Correct.of_subset (hcorrect : server.Correct sets)
    (hentries : ∀ entry ∈ left.entries, entry ∈ server.entries) : left.Correct sets :=
  fun entry hmem => hcorrect entry (hentries entry hmem)

/-- A decision of one of the rule sets keeps the server correct for all of them. -/
theorem Correct.gains (hcorrect : server.Correct sets) (hdiffer : RuleSet.DigestsDiffer sets)
    (hbuilt : ∀ set ∈ sets, set.IsBuilt) {engine : Engine} (hengine : engine.ruleSet ∈ sets)
    {whole : WholeCounts} {tier : Tier} (htier : engine.classify whole.toCounts = .ok tier)
    (hgains : Gains (ResultCache.keyText engine.version engine.policy.name whole.toCounts) tier
      server left) : left.Correct sets := by
  intro entry hmem set hset policy whole' hkey
  rcases hgains entry hmem with hold | ⟨hnew, hvalue⟩
  · exact hcorrect entry hold set hset policy whole' hkey
  · rw [hnew] at hkey
    obtain ⟨hversion, hpolicy, hcounts⟩ := ResultCache.keyText_whole_inj hkey
    refine ⟨tier, ?_, hvalue⟩
    rw [← htier, ← hcounts]
    exact Engine.classify_congr hpolicy.symm (fun metrics =>
      (RuleSet.classify_of_version hdiffer hengine hset (hbuilt _ hengine) (hbuilt _ hset)
        hversion metrics).symm) _

/-- A tier that is found under a key of a rule set is what the rule set decides. -/
theorem Correct.found (hcorrect : server.Correct sets) {engine : Engine}
    (hengine : engine.ruleSet ∈ sets) {whole : WholeCounts} {entry : CacheEntry}
    (hmem : entry ∈ server.entries)
    (hkey : entry.key = ResultCache.keyText engine.version engine.policy.name whole.toCounts)
    {tier : Tier} (hvalue : Tier.ofName? entry.value = some tier) :
    engine.classify whole.toCounts = .ok tier := by
  obtain ⟨decided, hdecided, hname⟩ :=
    hcorrect entry hmem engine.ruleSet hengine engine.policy whole hkey
  rw [hname, Tier.ofName?_name] at hvalue
  rw [← Option.some.inj hvalue]
  exact hdecided

/-- Putting a text in gains no other entry. -/
theorem mem_put {entry other : CacheEntry} (hmem : other ∈ (server.put entry).entries) :
    other ∈ server.entries ∨ other = entry := by
  unfold put at hmem
  dsimp only at hmem
  split at hmem
  · obtain ⟨old, hold, hreplaced⟩ := List.mem_map.mp hmem
    split at hreplaced
    · exact .inr hreplaced.symm
    · exact .inl (hreplaced ▸ hold)
  · rcases List.mem_append.mp hmem with hold | hnew
    · exact .inl hold
    · exact .inr (List.mem_singleton.mp hnew)

/-- A text that is there was put under its key. -/
theorem exists_entry_of_value? {key text : String} (hvalue : server.value? key = some text) :
    ∃ entry ∈ server.entries, entry.key = key ∧ entry.value = text := by
  unfold value? at hvalue
  obtain ⟨entry, hfind, htext⟩ := Option.map_eq_some_iff.mp hvalue
  have hkey := List.find?_some hfind
  exact ⟨entry, List.mem_of_find?_eq_some hfind, beq_iff_eq.mp hkey, htext⟩

/-- A call of the cache server has its effect, or else it fails and has none. -/
theorem call_cases {α : Type} (act : CacheServer → α × CacheServer)
    (server : CacheServer) :
    (∃ outage, server.call act =
      (.ok (act { server with outage }).1, (act { server with outage }).2)) ∨
    ∃ fault outage, server.call act = (.error (.fault fault), { server with outage }) := by
  unfold call
  cases server.outage.next with
  | mk fault? outage =>
      cases fault? with
      | none => exact .inl ⟨outage, rfl⟩
      | some fault => exact .inr ⟨fault, outage, rfl⟩

/-- A look-up changes no entry. -/
theorem lookUp_eq (key : String) (server : CacheServer) :
    (server.lookUp key).1 = server.value? key ∧
      (server.lookUp key).2.entries = server.entries := by
  unfold lookUp
  cases server.value? key with
  | none => exact ⟨rfl, rfl⟩
  | some text => exact ⟨rfl, rfl⟩

theorem lookUp_outage (key : String) (server : CacheServer) :
    (server.lookUp key).2.outage = server.outage := by
  unfold lookUp
  cases server.value? key with
  | none => rfl
  | some text => rfl

end CacheServer

end SkillTiers
