/-
# The cache as a lossy map

Seen from outside, the cache maps questions to tiers. It forgets: a question may find
nothing although a tier was kept, when the server fails at it. But it makes nothing up,
and it forgets everything when all decisions are dropped without a failure
(`answers_of_log`). A question has no answer at all where a count has too many digits for
a key: this is no failure of the server, and nothing is put in its place. What it remembers is defined by the log of what happened to it alone
(`remembered`), and each operation keeps the cache in accord with that (`Recalls`).

Each operation has a plan of outages of its own, so a log may have calls fail in any way.
-/

import Mathlib.Logic.Function.Basic
import SkillTiers.Proofs.Cache.Correct
import SkillTiers.Proofs.Cache.Faults
import SkillTiers.Proofs.Job.Course

namespace SkillTiers

namespace CacheServer

/-- After a text has been put under a key, it is there, and other keys are as before. -/
theorem value?_put (server : CacheServer) (entry : CacheEntry) (key : String) :
    (server.put entry).value? key =
      if entry.key = key then some entry.value else server.value? key := by
  by_cases hthere : server.entries.any (·.key == entry.key) = true
  · have hkeys : ((fun other : CacheEntry => other.key == key) ∘ fun other =>
        if other.key == entry.key then entry else other) = fun other => other.key == key := by
      funext other
      by_cases hsame : other.key = entry.key
      · simp [hsame]
      · simp [hsame]
    simp only [value?, put, hthere, if_true, List.find?_map, hkeys]
    cases hfound : server.entries.find? (·.key == key) with
    | none =>
        have hother : entry.key ≠ key := by
          rintro rfl
          obtain ⟨other, hmem, hsame⟩ := List.any_eq_true.mp hthere
          exact List.find?_eq_none.mp hfound other hmem hsame
        simp [hother]
    | some other =>
        have hkey : other.key = key := by simpa using List.find?_some hfound
        by_cases hsame : entry.key = key
        · simp [hkey, hsame]
        · simp [hkey, hsame, Ne.symm hsame]
  · have hnone : server.entries.find? (·.key == entry.key) = none := by
      simpa using hthere
    by_cases hsame : entry.key = key
    · simp [value?, put, hthere, List.find?_append, ← hsame, hnone]
    · simp [value?, put, hthere, List.find?_append, hsame]

end CacheServer

namespace ResultCache

open Job

/-- What the cache is asked: the counts of integers under a version and a policy whose
name has no colon. -/
structure Question where
  version : String
  policy : String
  high : Int
  medium : Int
  low : Int
  total : Int
  noColon : ':' ∉ policy.toList
deriving DecidableEq

namespace Question

/-- The counts of the question. -/
def counts (question : Question) : Counts :=
  ⟨.int question.high, .int question.medium, .int question.low, .int question.total⟩

/-- The key under which the answer is kept. -/
def key (question : Question) : String :=
  ResultCache.keyText question.version question.policy question.counts

/-- None of the counts has too many digits for a key. -/
def HasKey (question : Question) : Prop :=
  question.counts.HaveTexts

instance (question : Question) : Decidable question.HasKey :=
  inferInstanceAs (Decidable question.counts.HaveTexts)

theorem key_of_not_hasKey {question : Question} (hkey : ¬ question.HasKey) :
    ResultCache.key question.version question.policy question.counts =
      .error (.tooManyDigits none) :=
  (key_eq _ _ _).trans (if_neg hkey)

/-- Two questions never share a key. -/
theorem key_injective : Function.Injective key := by
  intro first second hkey
  obtain ⟨hversion, hpolicy, hhigh, hmedium, hlow, htotal⟩ :=
    keyText_inj first.noColon second.noColon hkey
  cases first
  cases second
  simp_all

end Question

/-- What can be asked of the cache. -/
inductive Operation where
  | get (question : Question)
  | set (question : Question) (tier : Tier) (ttl : Option Int)
  | invalidateAll

/-- What the cache can answer. -/
inductive Answer where
  | found (tier? : Option Tier)
  | kept (isKept : Bool)
  | dropped (count : Nat)

/-- The job of an operation. -/
def Operation.job : Operation → Job ResultCache Answer
  | .get question => do
    return .found (← ResultCache.get question.version question.policy question.counts)
  | .set question tier ttl => do
    return .kept (← ResultCache.set question.version question.policy question.counts tier
      (ttl.map Number.int))
  | .invalidateAll => do
    return .dropped (← ResultCache.invalidateAll)

/-- An operation that has ended, and whether some call of the server failed at it. -/
structure Event where
  operation : Operation
  outcome : Outcome Answer
  failed : Bool

/-- An operation on a cache whose server fails by some plan, if it fails, in the way that a
cache server fails. -/
inductive Happens (cache : ResultCache) : Event → ResultCache → Prop where
  | mk {operation : Operation} {plan : Outage} {outcome : Outcome Answer} {left : ResultCache}
      (hplan : plan.fault = .redis)
      (hrun : operation.job.run (cache.withPlan plan) = (outcome, left)) :
      Happens cache ⟨operation, outcome, (cache.withPlan plan).hasFailed left⟩ left

/-- The operations that have ended on a cache since it was started on an empty server, the
latest first. -/
inductive Log : List Event → ResultCache → Prop where
  | start {seconds : Int} {plan : Outage} {cache : ResultCache}
      (hstart : start.run ((initial (.int seconds)).withPlan plan) = (.ok (), cache)) :
      Log [] cache
  | next {events : List Event} {event : Event} {cache left : ResultCache}
      (hlog : Log events cache) (hhappens : Happens cache event left) :
      Log (event :: events) left

/-- What is remembered after an event. -/
def Event.leaves (event : Event) (memory : Question → Option Tier) : Question → Option Tier :=
  match event.operation, event.outcome, event.failed with
  | .set question tier _, .ok (.kept true), _ => Function.update memory question (some tier)
  | .invalidateAll, _, false => fun _ => none
  | _, _, _ => memory

/-- A tier is remembered unless the server failed to keep it. -/
theorem leaves_set {question : Question} {tier : Tier} {ttl : Option Int} {failed : Bool}
    {memory : Question → Option Tier} :
    Event.leaves ⟨.set question tier ttl, .ok (.kept (!failed)), failed⟩ memory =
      if failed then memory else Function.update memory question (some tier) := by
  cases failed <;> rfl

/-- All is forgotten unless the server failed to drop it. -/
theorem leaves_invalidateAll {outcome : Outcome Answer} {failed : Bool}
    {memory : Question → Option Tier} :
    Event.leaves ⟨.invalidateAll, outcome, failed⟩ memory =
      if failed then memory else fun _ => none := by
  cases failed <;> rfl

/-- The tier that was kept last for a question, unless all decisions have been dropped since
without a failure. -/
def remembered (events : List Event) : Question → Option Tier :=
  events.foldr Event.leaves fun _ => none

/-- The operation has an answer, and a true one: what is remembered is found, unless the
server failed. Only for a question without a key it raises the failure to write it. -/
def Event.IsAnswered (event : Event) (memory : Question → Option Tier) : Prop :=
  match event.operation with
  | .get question =>
      event.outcome = if question.HasKey then
          .ok (.found (if event.failed then none else memory question))
        else .error (.tooManyDigits none)
  | .set question _ _ =>
      event.outcome = if question.HasKey then .ok (.kept (!event.failed))
        else .error (.tooManyDigits none)
  | .invalidateAll => ∃ count, event.outcome = .ok (.dropped count)

/-- The time to live is within the limits. -/
def IsKeptInLimits (entry : CacheEntry) : Prop :=
  ∃ seconds : Int, entry.ttl = .int seconds ∧ 30 ≤ seconds ∧ seconds ≤ 3600

/-- The cache has a connection, and decisions are kept for whole seconds. -/
structure IsSetUp (cache : ResultCache) : Prop where
  isConnected : cache.isConnected = true
  defaultTtl : ∃ seconds : Int, cache.defaultTtl = .int seconds

/-- The cache is in accord with what is remembered. -/
structure Recalls (memory : Question → Option Tier) (cache : ResultCache) : Prop
    extends IsSetUp cache where
  value : ∀ question : Question,
    cache.server.value? question.key = (memory question).map Tier.name
  keys : ∀ entry ∈ cache.server.entries, keyStart.toList.isPrefixOf entry.key.toList = true
  ttls : ∀ entry ∈ cache.server.entries, IsKeptInLimits entry

variable {memory : Question → Option Tier} {cache left : ResultCache}

theorem IsSetUp.congr (hsetUp : IsSetUp cache) (hsame : SameSettings cache left) :
    IsSetUp left where
  isConnected := hsame.isConnected.trans hsetUp.isConnected
  defaultTtl := by
    rw [hsame.defaultTtl]
    exact hsetUp.defaultTtl

/-- Entries and settings are all that counts. -/
theorem Recalls.congr (hrecalls : Recalls memory cache) (hsame : SameSettings cache left)
    (hentries : left.server.entries = cache.server.entries) : Recalls memory left where
  toIsSetUp := hrecalls.toIsSetUp.congr hsame
  value question := by
    rw [← hrecalls.value question]
    simp only [CacheServer.value?, hentries]
  keys := by
    rw [hentries]
    exact hrecalls.keys
  ttls := by
    rw [hentries]
    exact hrecalls.ttls

/-- A number of seconds is brought within the limits. -/
theorem clampTtl_int (seconds : Int) :
    clampTtl (.int seconds) = .int (max 30 (min seconds 3600)) := by
  have hless (first second : Int) :
      Number.lt (.int first) (.int second) = decide (first < second) := by
    have hunits : (0 : Int) < unitsPerOne := Int.natCast_pos.mpr (Nat.two_pow_pos unitPlaces)
    exact decide_eq_decide.mpr (Int.mul_lt_mul_right hunits)
  have hcapped : (if Number.lt (.int seconds) maxTtl then Number.int seconds else maxTtl) =
      .int (min seconds 3600) := by
    rw [show maxTtl = .int 3600 from rfl, hless]
    by_cases hsmall : seconds < 3600
    · simp [hsmall, Int.min_eq_left (Int.le_of_lt hsmall)]
    · simp [hsmall, Int.min_eq_right (Int.not_lt.mp hsmall)]
  simp only [clampTtl, hcapped, show minTtl = .int 30 from rfl, hless]
  by_cases hlarge : 30 < min seconds 3600
  · simp only [hlarge, decide_true, if_true, Int.max_eq_right (Int.le_of_lt hlarge)]
  · simp [hlarge, Int.max_eq_left (Int.not_lt.mp hlarge)]

/-- What is put on the server is remembered. -/
theorem Recalls.put (hrecalls : Recalls memory cache) {question : Question} {tier : Tier}
    {ttl : Int} (hsame : SameSettings cache left)
    (hentries : left.server.entries =
      (cache.server.put ⟨question.key, clampTtl (.int ttl), tier.name⟩).entries) :
    Recalls (Function.update memory question (some tier)) left where
  toIsSetUp := hrecalls.toIsSetUp.congr hsame
  value other := by
    have hvalue : left.server.value? other.key =
        (cache.server.put ⟨question.key, clampTtl (.int ttl), tier.name⟩).value? other.key := by
      simp only [CacheServer.value?, hentries]
    rw [hvalue, CacheServer.value?_put]
    by_cases hsame : other = question
    · simp [hsame]
    · simp [hsame, Ne.symm (Question.key_injective.ne hsame), hrecalls.value other]
  keys entry hmem := by
    rw [hentries] at hmem
    rcases CacheServer.mem_put hmem with hold | rfl
    · exact hrecalls.keys entry hold
    · exact keyStart_isPrefixOf_keyText _ _ _
  ttls entry hmem := by
    rw [hentries] at hmem
    rcases CacheServer.mem_put hmem with hold | rfl
    · exact hrecalls.ttls entry hold
    · exact ⟨_, clampTtl_int ttl, by omega, by omega⟩

/-- When nothing is left on the server, nothing is remembered. -/
theorem Recalls.swept (hrecalls : Recalls memory cache) (hsame : SameSettings cache left)
    (hentries : left.server.entries = []) :
    Recalls (fun _ => none) left where
  toIsSetUp := hrecalls.toIsSetUp.congr hsame
  value question := by simp [CacheServer.value?, hentries]
  keys := by simp [hentries]
  ttls := by simp [hentries]

/-- All keys of the server are listed. -/
theorem Recalls.mem_keysFrom (hrecalls : Recalls memory cache) {entry : CacheEntry}
    (hmem : entry ∈ cache.server.entries) : entry.key ∈ cache.server.keysFrom keyStart :=
  List.mem_filter.mpr ⟨List.mem_map_of_mem hmem, hrecalls.keys entry hmem⟩

/-! ### Operations -/

section Operations

variable (hrecalls : Recalls memory cache) (hfault : cache.server.outage.fault = .redis)

include hrecalls hfault

/-- What is remembered is found, unless the server fails. -/
theorem Recalls.get {question : Question} {outcome : Outcome (Option Tier)}
    (hkey : question.HasKey)
    (hrun : (get question.version question.policy question.counts).run cache =
      (outcome, left)) :
    outcome = .ok (if cache.hasFailed left then none else memory question) ∧
      Recalls memory left ∧ left.server.entries = cache.server.entries := by
  rw [get_of_haveTexts hkey] at hrun
  obtain ⟨inner, hjob, rfl⟩ := online_cases hrecalls.isConnected hrun
  rcases call_then_cases (CacheServer.lookUp_outage question.key) hfault hjob with
    ⟨hsame, hfailed, rfl, hentries⟩ | ⟨mid, plan, hsame, -, htimes, hserver, hrest⟩
  · rw [hfailed]
    exact ⟨rfl, hrecalls.congr hsame hentries, hentries⟩
  · cases hrest
    obtain ⟨hvalue, hkept⟩ := CacheServer.lookUp_eq question.key (cache.withPlan plan).server
    have hentries : left.server.entries = cache.server.entries :=
      (congrArg CacheServer.entries hserver).trans hkept
    refine ⟨?_, hrecalls.congr hsame hentries, hentries⟩
    have hfound : (cache.withPlan plan).server.value? question.key = _ := hrecalls.value question
    rw [hasFailed_congr htimes, hasFailed_self, hvalue, hfound]
    cases memory question with
    | none => rfl
    | some tier => exact congrArg Except.ok (Tier.ofName?_name tier)

/-- A tier is remembered once it is kept, unless the server fails. -/
theorem Recalls.set {question : Question} {tier : Tier} {ttl : Option Int}
    {outcome : Outcome Bool} (hkey : question.HasKey)
    (hrun : (ResultCache.set question.version question.policy question.counts tier
      (ttl.map Number.int)).run cache = (outcome, left)) :
    outcome = .ok (!cache.hasFailed left) ∧
      Recalls (if cache.hasFailed left then memory
        else Function.update memory question (some tier)) left ∧
      (cache.hasFailed left = true → left.server.entries = cache.server.entries) := by
  rw [set_of_haveTexts hkey] at hrun
  obtain ⟨inner, hjob, rfl⟩ := online_cases hrecalls.isConnected hrun
  rw [run_look_bind] at hjob
  rcases call_then_cases (fun _ => rfl) hfault hjob with
    ⟨hsame, hfailed, rfl, hentries⟩ | ⟨mid, plan, hsame, -, htimes, hserver, hrest⟩
  · rw [hfailed]
    exact ⟨rfl, hrecalls.congr hsame hentries, fun _ => hentries⟩
  · cases hrest
    obtain ⟨seconds, hdefault⟩ := hrecalls.defaultTtl
    have hgiven : (ttl.map Number.int).getD cache.defaultTtl = .int (ttl.getD seconds) := by
      rw [hdefault]
      cases ttl <;> rfl
    rw [hgiven] at hserver
    have hentries := congrArg CacheServer.entries hserver
    rw [hasFailed_congr htimes, hasFailed_self]
    exact ⟨rfl, hrecalls.put hsame hentries, by simp⟩

/-- All decisions are dropped, or some call of the server fails and none is. -/
theorem Recalls.invalidateAll {outcome : Outcome Nat}
    (hrun : ResultCache.invalidateAll.run cache = (outcome, left)) :
    (∃ count, outcome = .ok count) ∧
      Recalls (if cache.hasFailed left then memory else fun _ => none) left ∧
      (cache.hasFailed left = true → left.server.entries = cache.server.entries) := by
  obtain ⟨inner, hjob, rfl⟩ := online_cases hrecalls.isConnected hrun
  rcases call_then_cases (fun _ => rfl) hfault hjob with
    ⟨hsame, hfailed, rfl, hentries⟩ | ⟨mid, plan, hsame, hmidFault, htimes, hserver, hrest⟩
  · rw [hfailed]
    exact ⟨⟨0, rfl⟩, hrecalls.congr hsame hentries, fun _ => hentries⟩
  · have hentries : mid.server.entries = cache.server.entries := by
      rw [hserver]
      rfl
    have hmid : Recalls memory mid := hrecalls.congr hsame hentries
    have hkeys : (cache.withPlan plan).server.keysFrom keyStart = mid.server.keysFrom keyStart := by
      unfold CacheServer.keysFrom
      rw [hentries]
      rfl
    rw [hasFailed_congr htimes]
    dsimp only at hrest
    rw [hkeys] at hrest
    split at hrest
    · rename_i hnone
      cases hrest
      have hempty : left.server.entries = [] := by
        apply List.eq_nil_iff_forall_not_mem.mpr
        intro entry hmem
        have hlisted := hmid.mem_keysFrom hmem
        rw [List.isEmpty_iff.mp hnone] at hlisted
        cases hlisted
      rw [hasFailed_self]
      exact ⟨⟨0, rfl⟩, hmid.swept ⟨rfl, rfl⟩ hempty, by simp⟩
    · rcases call_then_cases (fun _ => rfl) hmidFault hrest with
        ⟨hsame', hfailed, rfl, hkept⟩ | ⟨ended, plan', hsame', -, htimes', hserver', hreturn⟩
      · rw [hfailed]
        exact ⟨⟨0, rfl⟩, hmid.congr hsame' hkept, fun _ => hkept.trans hentries⟩
      · cases hreturn
        have hempty : left.server.entries = [] := by
          rw [hserver']
          apply List.filter_eq_nil_iff.mpr
          intro entry hmem
          simp [hmid.mem_keysFrom hmem]
        rw [hasFailed_congr htimes', hasFailed_self]
        exact ⟨⟨_, rfl⟩, hmid.swept hsame' hempty, by simp⟩

end Operations

/-- Without a key, a look-up ends before it comes to the server. -/
theorem run_get_of_no_key (hconnected : cache.isConnected = true) {question : Question}
    (hkey : ¬ question.HasKey) :
    (get question.version question.policy question.counts).run cache =
      (.error (.tooManyDigits none), cache) := by
  unfold get
  rw [Question.key_of_not_hasKey hkey]
  simp [online, sparing, look, run_bind, run_attempt, run, hconnected, fail]

/-- So does keeping a tier. -/
theorem run_set_of_no_key (hconnected : cache.isConnected = true) {question : Question}
    (hkey : ¬ question.HasKey) (tier : Tier) (ttl : Option Number) :
    (ResultCache.set question.version question.policy question.counts tier ttl).run cache =
      (.error (.tooManyDigits none), cache) := by
  unfold ResultCache.set
  rw [Question.key_of_not_hasKey hkey]
  simp [online, sparing, look, run_bind, run_attempt, run, hconnected, fail]

/-- Every operation is answered from what is remembered, and leaves the cache in accord
with what is remembered then. -/
theorem Recalls.happens {event : Event} (hrecalls : Recalls memory cache)
    (hhappens : Happens cache event left) :
    event.IsAnswered memory ∧ Recalls (event.leaves memory) left ∧
      (event.failed = true ∨ ¬ IsResult event.outcome →
        left.server.entries = cache.server.entries) := by
  cases hhappens with
  | @mk operation plan outcome left hplan hrun =>
      have hplanned : Recalls memory (cache.withPlan plan) := hrecalls.congr ⟨rfl, rfl⟩ rfl
      cases operation with
      | get question =>
          obtain ⟨inner, hinner, rfl⟩ := run_map hrun
          by_cases hkey : question.HasKey
          · obtain ⟨rfl, hleft, hentries⟩ := hplanned.get hplan hkey hinner
            exact ⟨(if_pos hkey).symm, hleft, fun _ => hentries⟩
          · rw [run_get_of_no_key hplanned.isConnected hkey] at hinner
            cases hinner
            exact ⟨(if_neg hkey).symm, hplanned, fun _ => rfl⟩
      | set question tier ttl =>
          obtain ⟨inner, hinner, rfl⟩ := run_map hrun
          by_cases hkey : question.HasKey
          · obtain ⟨rfl, hleft, hentries⟩ := hplanned.set hplan hkey hinner
            rw [Except.map, leaves_set]
            refine ⟨(if_pos hkey).symm, hleft, ?_⟩
            rintro (hfailed | hraised)
            · exact hentries hfailed
            · exact absurd (isResult_ok _) hraised
          · rw [run_set_of_no_key hplanned.isConnected hkey] at hinner
            cases hinner
            exact ⟨(if_neg hkey).symm, hplanned, fun _ => rfl⟩
      | invalidateAll =>
          obtain ⟨inner, hinner, rfl⟩ := run_map hrun
          obtain ⟨⟨count, rfl⟩, hleft, hentries⟩ := hplanned.invalidateAll hplan hinner
          rw [leaves_invalidateAll]
          refine ⟨⟨count, rfl⟩, hleft, ?_⟩
          rintro (hfailed | hraised)
          · exact hentries hfailed
          · exact absurd (isResult_ok _) hraised

/-! ### Logs -/

/-- A cache that has started on an empty server remembers nothing. -/
theorem recalls_start {seconds : Int} {plan : Outage}
    (hstart : start.run ((initial (.int seconds)).withPlan plan) = (.ok (), cache)) :
    Recalls (fun _ => none) cache := by
  unfold start at hstart
  simp only [run_bind, change, run, run_attempt, call, ask, CacheServer.call, withPlan] at hstart
  cases hnext : plan.next with
  | mk fault? later =>
      rw [hnext] at hstart
      cases fault? with
      | some fault => cases fault <;> cases hstart
      | none =>
          cases hstart
          exact
            { isConnected := rfl
              defaultTtl := ⟨seconds, rfl⟩
              value := fun _ => rfl
              keys := by simp [initial, CacheServer.empty]
              ttls := by simp [initial, CacheServer.empty] }

/-- Whatever has happened to the cache, it is in accord with what is remembered. -/
theorem Log.recalls {events : List Event} (hlog : Log events cache) :
    Recalls (remembered events) cache := by
  induction hlog with
  | start hstart => exact recalls_start hstart
  | next _ hhappens ih => exact (ih.happens hhappens).2.1

/-- Whatever has happened to the cache, and whatever calls fail, an operation on it raises
something just if a count that it is asked about has too many digits for a key. What is found
is what is remembered, or nothing if the server fails; where the server fails at an
operation, or the operation raises something, nothing on it changes; and all decisions are
kept for a time within the limits. -/
theorem answers_of_log {events : List Event} {event : Event} (hlog : Log events cache)
    (hhappens : Happens cache event left) :
    event.IsAnswered (remembered events) ∧
      (event.failed = true ∨ ¬ IsResult event.outcome →
        left.server.entries = cache.server.entries) ∧
      ∀ entry ∈ left.server.entries, IsKeptInLimits entry := by
  obtain ⟨hanswered, hleft, hentries⟩ := hlog.recalls.happens hhappens
  exact ⟨hanswered, hentries, hleft.ttls⟩

/-- A question about one skill of a beginner. -/
def asked : Question where
  version := "v1"
  policy := "beginner"
  high := 0
  medium := 0
  low := 1
  total := 1
  noColon := by decide

/-- The second call of the server fails. -/
def secondFails : Outage :=
  ⟨.redis, 1, 1⟩

/-- A cache that has kept its answer to the question. -/
def keeping : ResultCache :=
  ⟨⟨[⟨asked.key, clampTtl (.int 5), "beginner"⟩], 0, 0, none, .never⟩, true, .int 60⟩

/-- A tier is kept, the decisions cannot be dropped because the server fails after it has
listed them, and the tier is found. -/
theorem answers_of_log_asked :
    ∃ (events : List Event) (cache left : ResultCache) (event : Event),
      Log events cache ∧ Happens cache event left ∧ event.operation = .get asked ∧
        event.outcome = .ok (.found (some .beginner)) ∧
          ∀ entry ∈ left.server.entries, IsKeptInLimits entry := by
  have hplan : secondFails.fault = .redis := rfl
  have hstarted : Log [] ⟨.empty, true, .int 60⟩ :=
    .start (show start.run ((initial (.int 60)).withPlan .never) = _ from rfl)
  have hkept : Log [⟨.set asked .beginner (some 5), .ok (.kept true), false⟩]
      (keeping.withPlan ⟨.redis, 0, 1⟩) :=
    hstarted.next (.mk hplan rfl)
  have hfailed : Log [⟨.invalidateAll, .ok (.dropped 0), true⟩,
      ⟨.set asked .beginner (some 5), .ok (.kept true), false⟩]
      (keeping.withPlan ⟨.redis, 0, 0⟩) :=
    hkept.next (.mk hplan rfl)
  have hfound := (Happens.mk hplan rfl :
    Happens (keeping.withPlan ⟨.redis, 0, 0⟩) ⟨.get asked, _, _⟩ _)
  obtain ⟨hanswered, -, hlimits⟩ := answers_of_log hfailed hfound
  have hkey : asked.HasKey := by decide +kernel
  exact ⟨_, _, _, _, hfailed, hfound, rfl, hanswered.trans (if_pos hkey), hlimits⟩

/-- A question about a great many high ratings. -/
def enormous : Question :=
  { asked with high := (10 ^ Numeral.maxDigits : Nat) }

theorem not_hasKey_enormous : ¬ enormous.HasKey := by
  intro htexts
  have hhigh : (Number.int (10 ^ Numeral.maxDigits : Nat)).HasText :=
    htexts ("high_count", _) List.mem_cons_self
  rw [Number.HasText, Int.natAbs_natCast] at hhigh
  exact Nat.lt_irrefl _ hhigh

/-- A cache that has just been started. -/
def started : ResultCache :=
  ⟨.empty, true, .int 60⟩

/-- A cache whose server has never failed raises something at that question. -/
theorem answers_of_log_enormous :
    Log [] started ∧ ∃ (left : ResultCache) (event : Event), Happens started event left ∧
      event.operation = .get enormous ∧ event.failed = false ∧
        event.outcome = .error (.tooManyDigits none) := by
  have hlog : Log [] started :=
    .start (show start.run ((initial (.int 60)).withPlan .never) = _ from rfl)
  have hplan : Outage.fault ⟨.redis, 0, 0⟩ = .redis := rfl
  have hrun : (Operation.get enormous).job.run (started.withPlan ⟨.redis, 0, 0⟩) =
      (.error (.tooManyDigits none), started.withPlan ⟨.redis, 0, 0⟩) := by
    rw [Operation.job, run_bind, run_get_of_no_key rfl not_hasKey_enormous]
  exact ⟨hlog, _, _, .mk hplan hrun, rfl, rfl, rfl⟩

end ResultCache

end SkillTiers
