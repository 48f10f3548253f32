/-
# The cache while its server fails

A job on the cache that begins with a call of the server fails at it, and then nothing is
changed on the server, or it goes on with the effect of the call (`call_then_cases`). Where
the cache has a connection, a failure of the server is an answer all the same
(`online_cases`). Whether some call has failed between two moments shows in the plan of
outages that is left (`hasFailed`).
-/

import SkillTiers.Cache.Results
import SkillTiers.Proofs.Job.Outline

namespace SkillTiers

namespace ResultCache

open Job

/-- The cache with another plan of outages of its server. -/
def withPlan (cache : ResultCache) (outage : Outage) : ResultCache :=
  { cache with server := { cache.server with outage } }

/-- The cache server fails no call from now on. -/
def IsCalm (cache : ResultCache) : Prop :=
  cache.server.outage.times = 0

/-- Whether some call of the server has failed between two moments: it was taken off the
plan. -/
def hasFailed (cache left : ResultCache) : Bool :=
  decide (left.server.outage.times < cache.server.outage.times)

/-- Nothing but the server has changed between two moments. -/
structure SameSettings (cache left : ResultCache) : Prop where
  isConnected : left.isConnected = cache.isConnected
  defaultTtl : left.defaultTtl = cache.defaultTtl

variable {α : Type} {cache left : ResultCache}

/-- The next call fails and is taken off the plan, or it goes well. -/
theorem next_cases (plan : Outage) :
    (∃ later, plan.next = (some plan.fault, later) ∧ later.fault = plan.fault ∧
        later.times < plan.times) ∨
      ∃ later, plan.next = (none, later) ∧ later.fault = plan.fault ∧
        later.times = plan.times := by
  obtain ⟨fault, after, times⟩ := plan
  cases after with
  | succ after => exact .inr ⟨_, rfl, rfl, rfl⟩
  | zero =>
      cases times with
      | zero => exact .inr ⟨_, rfl, rfl, rfl⟩
      | succ times => exact .inl ⟨_, rfl, rfl, Nat.lt_succ_self times⟩

/-- Calls that went well do not count as failures. -/
theorem hasFailed_congr {mid : ResultCache}
    (htimes : mid.server.outage.times = cache.server.outage.times) :
    cache.hasFailed left = mid.hasFailed left := by
  simp [hasFailed, htimes]

@[simp] theorem hasFailed_self (cache : ResultCache) : cache.hasFailed cache = false := by
  simp [hasFailed]

/-- A job that begins with a call fails there and leaves the entries as they are, or it goes
on after the call has had its effect. -/
theorem call_then_cases {β : Type} {act : CacheServer → β × CacheServer}
    {next : β → Job ResultCache α} {outcome : Outcome α}
    (hact : ∀ server, (act server).2.outage = server.outage)
    (hfault : cache.server.outage.fault = .redis)
    (hrun : (call act >>= next).run cache = (outcome, left)) :
    (SameSettings cache left ∧ cache.hasFailed left = true ∧ outcome = .error (.fault .redis) ∧
        left.server.entries = cache.server.entries) ∨
      ∃ mid plan, SameSettings cache mid ∧ mid.server.outage.fault = .redis ∧
        mid.server.outage.times = cache.server.outage.times ∧
        mid.server = (act (cache.withPlan plan).server).2 ∧
        (next (act (cache.withPlan plan).server).1).run mid = (outcome, left) := by
  simp only [run_bind, call, ask, run, CacheServer.call] at hrun
  rcases next_cases cache.server.outage with ⟨plan, hnext, hplan, htimes⟩ |
    ⟨plan, hnext, hplan, htimes⟩
  · rw [hnext, hfault] at hrun
    cases hrun
    exact .inl ⟨⟨rfl, rfl⟩, decide_eq_true htimes, rfl, rfl⟩
  · rw [hnext] at hrun
    have hkept := hact (cache.withPlan plan).server
    refine .inr ⟨{ cache with server := (act (cache.withPlan plan).server).2 }, plan, ⟨rfl, rfl⟩,
      ?_, ?_, rfl, hrun⟩
    · exact (congrArg Outage.fault hkept).trans (hplan.trans hfault)
    · exact (congrArg Outage.times hkept).trans htimes

/-- The outcome, with an answer in place of the failure of the server. -/
def spared (answer : α) : Outcome α → Outcome α
  | .error (.fault .redis) => .ok answer
  | outcome => outcome

/-- On a connected cache the failure of the server becomes an answer. -/
theorem online_cases (hconnected : cache.isConnected = true) {answer : α}
    {job : Job ResultCache α} {outcome : Outcome α}
    (hrun : (online answer job).run cache = (outcome, left)) :
    ∃ inner, job.run cache = (inner, left) ∧ outcome = spared answer inner := by
  simp only [online, sparing, run_bind, look, run, hconnected, if_true, run_attempt] at hrun
  cases hjob : job.run cache with
  | mk inner ended =>
      rw [hjob] at hrun
      cases inner with
      | ok value =>
          cases hrun
          exact ⟨_, rfl, rfl⟩
      | error failure =>
          cases failure with
          | fault fault =>
              cases fault <;> cases hrun <;> exact ⟨_, rfl, rfl⟩
          | _ =>
              cases hrun
              exact ⟨_, rfl, rfl⟩

/-- What is made of the outcome of a job. -/
theorem run_map {β : Type} {job : Job ResultCache α} {make : α → β} {outcome : Outcome β}
    (hrun : (do return make (← job)).run cache = (outcome, left)) :
    ∃ inner, job.run cache = (inner, left) ∧ outcome = inner.map make := by
  rw [run_bind] at hrun
  cases hjob : job.run cache with
  | mk inner ended =>
      rw [hjob] at hrun
      cases inner with
      | ok value =>
          cases hrun
          exact ⟨_, rfl, rfl⟩
      | error failure =>
          cases hrun
          exact ⟨_, rfl, rfl⟩

end ResultCache

end SkillTiers
