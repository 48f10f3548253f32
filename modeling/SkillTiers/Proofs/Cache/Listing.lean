/-
# The decisions among the entries of a server

A server can hold more than decisions. The decisions are told from the rest by how their keys
begin: that is how they are listed, counted and dropped (`invalidateAll_of_calm`,
`stats_of_calm`), and every key begins so. Apart from that a key says what its decision is
about, and nothing else can have the same key (`ResultCache.key_unambiguous`).
-/

import SkillTiers.Proofs.Cache.Faults
import SkillTiers.Proofs.Cache.Recall
import SkillTiers.Proofs.Outcome

namespace SkillTiers

/-- Whether the entry is a decision, by its key. -/
def CacheEntry.isDecision (entry : CacheEntry) : Bool :=
  ResultCache.keyStart.toList.isPrefixOf entry.key.toList

namespace CacheServer

/-- The keys that are listed are those of the decisions. -/
theorem keysFrom_keyStart (server : CacheServer) :
    server.keysFrom ResultCache.keyStart =
      (server.entries.filter CacheEntry.isDecision).map (·.key) := by
  rw [keysFrom, List.filter_map]
  rfl

theorem length_keysFrom (server : CacheServer) :
    (server.keysFrom ResultCache.keyStart).length =
      server.entries.countP CacheEntry.isDecision := by
  rw [keysFrom_keyStart, List.length_map, List.countP_eq_length_filter]

/-- Without the keys that are listed, what is no decision is left. -/
theorem drop_keysFrom (server : CacheServer) :
    (server.drop (server.keysFrom ResultCache.keyStart)).entries =
      server.entries.filter fun entry => !entry.isDecision := by
  refine List.filter_congr fun entry hmem => congrArg not ?_
  rw [Bool.eq_iff_iff, List.contains_iff_mem, keysFrom, List.mem_filter]
  exact and_iff_right (List.mem_map_of_mem hmem)

end CacheServer

namespace ResultCache

open Job

variable {α β : Type} {cache : ResultCache}

/-- The cache with the plan that is left after a call. -/
def later (cache : ResultCache) : ResultCache :=
  cache.withPlan cache.server.outage.next.2

theorem IsCalm.next (hcalm : cache.IsCalm) :
    cache.server.outage.next.1 = none ∧ cache.later.IsCalm := by
  rcases next_cases cache.server.outage with ⟨plan, -, -, hless⟩ | ⟨plan, hnext, -, htimes⟩
  · rw [hcalm] at hless
    exact absurd hless (Nat.not_lt_zero _)
  · refine ⟨by rw [hnext], ?_⟩
    rw [later, hnext]
    exact htimes.trans hcalm

/-- On a server that does not fail a call has its effect, and the job goes on. -/
theorem IsCalm.run_call_bind (hcalm : cache.IsCalm) (act : CacheServer → β × CacheServer)
    (next : β → Job ResultCache α) :
    (call act >>= next).run cache =
      (next (act cache.later.server).1).run
        { cache with server := (act cache.later.server).2 } := by
  have hnext : cache.server.outage.next = (none, cache.server.outage.next.2) :=
    Prod.ext hcalm.next.1 rfl
  rw [run_bind, call, ask, run, CacheServer.call, hnext]
  rfl

/-- On a connected cache the failure of the server becomes an answer. -/
theorem run_online (hconnected : cache.isConnected = true) (answer : α)
    (job : Job ResultCache α) :
    (online answer job).run cache = (spared answer (job.run cache).1, (job.run cache).2) := by
  have hrun : (online answer job).run cache =
      (((online answer job).run cache).1, ((online answer job).run cache).2) := rfl
  obtain ⟨inner, hjob, houtcome⟩ := online_cases hconnected hrun
  rw [hrun, houtcome, hjob]

/-- A connected cache whose server does not fail drops every decision, says how many there
were, and keeps what is no decision. -/
theorem invalidateAll_of_calm (hconnected : cache.isConnected = true) (hcalm : cache.IsCalm) :
    ∃ left, invalidateAll.run cache =
        (.ok (cache.server.entries.countP CacheEntry.isDecision), left) ∧
      left.server.entries = cache.server.entries.filter fun entry => !entry.isDecision := by
  have hlist : ({ cache with server := cache.later.server } : ResultCache) = cache.later := rfl
  have hkeys : cache.later.server.keysFrom keyStart = cache.server.keysFrom keyStart := rfl
  rw [invalidateAll, run_online hconnected, hcalm.run_call_bind]
  dsimp only
  rw [hkeys, hlist, ← cache.server.length_keysFrom, ← cache.server.drop_keysFrom]
  split
  · rename_i hnone
    have hkept : (cache.server.drop []).entries = cache.server.entries :=
      List.filter_eq_self.mpr fun _ _ => rfl
    rw [List.isEmpty_iff.mp hnone]
    exact ⟨_, rfl, hkept.symm⟩
  · rw [hcalm.next.2.run_call_bind]
    exact ⟨_, rfl, rfl⟩

/-- A connected cache whose server does not fail says how many decisions there are, if there is
a share of look-ups to tell. -/
theorem stats_of_calm (hconnected : cache.isConnected = true) (hcalm : cache.IsCalm)
    (hrate : IsResult (hitRate cache.server.info)) :
    ∃ told left, stats.run cache = (.ok told, left) ∧
      Json.lookup told "classification_keys" =
        some (.ofInt (cache.server.entries.countP CacheEntry.isDecision)) := by
  have hasked : ({ cache with server := cache.later.server } : ResultCache) = cache.later := rfl
  have hinfo : cache.later.server.info = cache.server.info := rfl
  have hkeys : cache.later.later.server.keysFrom keyStart = cache.server.keysFrom keyStart := rfl
  obtain ⟨rate, hrate⟩ := hrate
  rw [stats, run_online hconnected, hcalm.run_call_bind]
  dsimp only
  rw [hasked, hcalm.next.2.run_call_bind]
  dsimp only
  rw [hinfo, hkeys, hrate, cache.server.length_keysFrom]
  exact ⟨_, _, rfl, rfl⟩

/-- A key is the text of its parts. Equal texts have equal parts, since a version alone can hold
colons. Every key begins with `keyStart`, and by that beginning a cache whose server does not
fail drops all decisions and nothing else, and counts them. -/
theorem key_unambiguous :
    (∀ (version policy : String) (counts : Counts) (text : String),
      key version policy counts = .ok text → text = keyText version policy counts) ∧
    (∀ (version version' policy policy' : String)
        (high high' medium medium' low low' total total' : Int),
      ':' ∉ policy.toList → ':' ∉ policy'.toList →
      keyText version policy ⟨.int high, .int medium, .int low, .int total⟩ =
        keyText version' policy' ⟨.int high', .int medium', .int low', .int total'⟩ →
      version = version' ∧ policy = policy' ∧ high = high' ∧ medium = medium' ∧ low = low' ∧
        total = total') ∧
    (∀ (version policy : String) (counts : Counts),
      keyStart.toList <+: (keyText version policy counts).toList) ∧
    ∀ cache : ResultCache, cache.isConnected = true → cache.IsCalm →
      (∃ left, invalidateAll.run cache =
          (.ok (cache.server.entries.countP CacheEntry.isDecision), left) ∧
        left.server.entries = cache.server.entries.filter fun entry => !entry.isDecision) ∧
      (IsResult (hitRate cache.server.info) → ∃ told left, stats.run cache = (.ok told, left) ∧
        Json.lookup told "classification_keys" =
          some (.ofInt (cache.server.entries.countP CacheEntry.isDecision))) := by
  refine ⟨fun version policy counts text hkey => ?_, fun _ _ _ _ _ _ _ _ _ _ _ _ => keyText_inj,
    fun version policy counts => ?_, fun cache hconnected hcalm =>
      ⟨invalidateAll_of_calm hconnected hcalm, stats_of_calm hconnected hcalm⟩⟩
  · obtain ⟨-, -, rfl⟩ := map_ok hkey
    rfl
  exact List.isPrefixOf_iff_prefix.mp (keyStart_isPrefixOf_keyText version policy counts)

/-- A version with a colon in it is read back from a key, and the one decision that a cache has
kept is listed and dropped. -/
theorem key_unambiguous_keeping :
    key "v:1" "nan" ⟨.int (-3), .int 0, .int 10, .int 0⟩ =
      .ok (keyText "v:1" "nan" ⟨.int (-3), .int 0, .int 10, .int 0⟩) ∧
    ':' ∉ "nan".toList ∧
    keyText "v:1" "nan" ⟨.int (-3), .int 0, .int 10, .int 0⟩ =
      keyText ("v" ++ ":1") "nan" ⟨.int (-3), .int 0, .int 10, .int 0⟩ ∧
    "v:1" = "v" ++ ":1" ∧ keeping.isConnected = true ∧ keeping.IsCalm ∧
    IsResult (hitRate keeping.server.info) ∧
    (∃ left, invalidateAll.run keeping = (.ok 1, left) ∧ left.server.entries = []) ∧
    ∃ told left, stats.run keeping = (.ok told, left) ∧
      Json.lookup told "classification_keys" = some (.ofInt 1) := by
  have hnone : ':' ∉ "nan".toList := by decide
  have hkeys : keyText "v:1" "nan" ⟨.int (-3), .int 0, .int 10, .int 0⟩ =
      keyText ("v" ++ ":1") "nan" ⟨.int (-3), .int 0, .int 10, .int 0⟩ := rfl
  have hrate : IsResult (hitRate keeping.server.info) := isResult_of_isSome (by decide +kernel)
  have hkey : IsResult (key "v:1" "nan" ⟨.int (-3), .int 0, .int 10, .int 0⟩) :=
    isResult_of_isSome (by decide +kernel)
  obtain ⟨htext, hparts, -, hlisted⟩ := key_unambiguous
  obtain ⟨text, hkey⟩ := hkey
  obtain ⟨hdropped, htold⟩ := hlisted keeping rfl rfl
  exact ⟨htext _ _ _ _ hkey ▸ hkey, hnone, hkeys, (hparts _ _ _ _ _ _ _ _ _ _ _ _ hnone hnone hkeys).1, rfl, rfl, hrate,
    hdropped, htold hrate⟩

end ResultCache

end SkillTiers
