/-
# Dropping every decision

When no call of the server fails, dropping every decision leaves none on it, even if
the server's plan of outages changes between the calls (`invalidateAll_course`). When
a call fails in the way that a cache server fails, nothing is reported; dropping fails
only with a fault of another kind.
-/

import SkillTiers.Proofs.Cache.Drops
import SkillTiers.Proofs.Job.Course

namespace SkillTiers

namespace ResultCache

open Job

variable {α : Type}

/-- The plan of outages of the server changes; nothing else does. -/
def Weather (cache turned : ResultCache) : Prop :=
  ∃ outage : Outage, turned = { cache with server := { cache.server with outage } }

/-- No decision is on the server. -/
def IsSwept (cache : ResultCache) : Prop :=
  ∀ entry ∈ cache.server.entries, keyStart.toList.isPrefixOf entry.key.toList = false

/-- The next call of the server goes well. -/
def Answers (cache : ResultCache) : Prop :=
  cache.server.outage.next.1 = none

/-- The outcome is no failure but a fault. -/
def FailsByFault (outcome : Outcome α) : Prop :=
  ∀ failure, outcome = .error failure → ∃ fault, failure = .fault fault

variable {weather : ResultCache → ResultCache → Prop} {cache left : ResultCache}
  {outcome : Outcome α}

/-- A call fails by a fault and changes nothing but the plan, or it has its effect. -/
theorem call_course {act : CacheServer → α × CacheServer}
    (hcourse : Course weather (call act) cache outcome left) :
    ∃ turned, weather cache turned ∧
      ((∃ fault, ¬ turned.Answers ∧ outcome = .error (.fault fault)) ∨
        ∃ outage, outcome = .ok (act { turned.server with outage }).1 ∧
          left = { turned with server := (act { turned.server with outage }).2 }) := by
  obtain ⟨turned, hturned, hact⟩ := ask_course hcourse
  refine ⟨turned, hturned, ?_⟩
  unfold CacheServer.call at hact
  unfold Answers
  cases hnext : turned.server.outage.next with
  | mk fault? outage =>
      rw [hnext] at hact
      obtain ⟨houtcome, hleft⟩ := Prod.mk.inj hact
      cases fault? with
      | none => exact .inr ⟨outage, houtcome.symm, hleft.symm⟩
      | some fault => exact .inl ⟨fault, nofun, houtcome.symm⟩

/-- A call that fails does so by a fault, and the server has not answered it. -/
theorem call_failed {act : CacheServer → α × CacheServer} {failure : Failure}
    (hcourse : Course weather (call act) cache (.error failure) left) :
    (∃ fault, failure = .fault fault) ∧
      ¬ ∀ cache turned, weather cache turned → turned.Answers := by
  obtain ⟨turned, hturned, ⟨fault, hfails, hfault⟩ | ⟨_, hvalue, -⟩⟩ := call_course hcourse
  · exact ⟨⟨fault, Except.error.inj hfault⟩, fun hanswers => hfails (hanswers _ _ hturned)⟩
  · cases hvalue

/-- A call that ends well has had its effect. -/
theorem call_answered {act : CacheServer → α × CacheServer} {value : α}
    (hcourse : Course weather (call act) cache (.ok value) left) :
    ∃ turned outage, weather cache turned ∧ value = (act { turned.server with outage }).1 ∧
      left = { turned with server := (act { turned.server with outage }).2 } := by
  obtain ⟨turned, hturned, ⟨_, -, hfault⟩ | ⟨outage, hvalue, hleft⟩⟩ := call_course hcourse
  · cases hfault
  · exact ⟨turned, outage, hturned, Except.ok.inj hvalue, hleft⟩

/-- A job that needs a connection has its own course if there is one; at most a fault
of the server is taken back. -/
theorem online_course {answer : α} {job : Job ResultCache α}
    (hcourse : Course weather (online answer job) cache outcome left) :
    (cache.isConnected = false ∧ outcome = .ok answer ∧ left = cache) ∨
      (cache.isConnected = true ∧ ∃ inner, Course weather job cache inner left ∧
        (outcome = inner ∨ (outcome = .ok answer ∧ inner = .error (.fault .redis)))) := by
  replace hcourse := look_then_course hcourse
  cases hconnected : cache.isConnected with
  | false =>
      rw [hconnected] at hcourse
      obtain ⟨houtcome, rfl⟩ := done_course hcourse
      exact .inl ⟨rfl, houtcome, rfl⟩
  | true =>
      rw [hconnected] at hcourse
      refine .inr ⟨rfl, ?_⟩
      obtain ⟨inner, done, hjob, hcourse⟩ := attempt_then_course hcourse
      cases inner with
      | ok value =>
          obtain ⟨houtcome, rfl⟩ := done_course hcourse
          exact ⟨_, hjob, .inl houtcome⟩
      | error failure =>
          cases failure with
          | fault fault =>
              cases fault with
              | redis =>
                  obtain ⟨houtcome, rfl⟩ := done_course hcourse
                  exact ⟨_, hjob, .inr ⟨houtcome, rfl⟩⟩
              | _ =>
                  obtain ⟨houtcome, rfl⟩ := done_course hcourse
                  exact ⟨_, hjob, .inl houtcome⟩
          | _ =>
              obtain ⟨houtcome, rfl⟩ := done_course hcourse
              exact ⟨_, hjob, .inl houtcome⟩

/-- An entry that is not listed among the decisions is none. -/
private theorem isPrefixOf_of_not_listed {server : CacheServer} {entry : CacheEntry}
    (hmem : entry ∈ server.entries) (hkey : entry.key ∉ server.keysFrom keyStart) :
    keyStart.toList.isPrefixOf entry.key.toList = false := by
  cases hstart : keyStart.toList.isPrefixOf entry.key.toList with
  | false => rfl
  | true => exact absurd (List.mem_filter.mpr ⟨List.mem_map_of_mem hmem, hstart⟩) hkey

/-- Where the keys of all decisions have been dropped, no decision is left. -/
private theorem isSwept_drop (cache : ResultCache) (server : CacheServer)
    (hentries : cache.server.entries = (server.drop (server.keysFrom keyStart)).entries) :
    cache.IsSwept := by
  intro entry hmem
  rw [hentries] at hmem
  obtain ⟨hentry, hkept⟩ := List.mem_filter.mp hmem
  apply isPrefixOf_of_not_listed hentry
  intro hkey
  rw [List.contains_iff_mem.mpr hkey] at hkept
  cases hkept

/-- Dropping every decision fails at most by a fault, and when the server answers every
call of a connected cache, no decision is left. -/
theorem invalidateAll_course {outcome : Outcome Nat}
    (hweather : ∀ cache turned, weather cache turned → Weather cache turned)
    (hcourse : Course weather invalidateAll cache outcome left) :
    FailsByFault outcome ∧
      ((∀ cache turned, weather cache turned → turned.Answers) → cache.isConnected = true →
        (∃ count, outcome = .ok count) ∧ left.IsSwept) := by
  rcases online_course hcourse with ⟨hlone, rfl, rfl⟩ | ⟨-, inner, hjob, houtcome⟩
  · exact ⟨nofun, fun _ hconnected => absurd (hlone.symm.trans hconnected) Bool.false_ne_true⟩
  have hinner : FailsByFault inner ∧ ((∀ cache turned, weather cache turned → turned.Answers) →
      (∃ count, inner = .ok count) ∧ left.IsSwept) := by
    rcases bind_course hjob with ⟨failure, rfl, hlist⟩ | ⟨keys, listed, hlist, hjob⟩
    · obtain ⟨hfault, hfails⟩ := call_failed hlist
      exact ⟨fun _ h => Except.error.inj h ▸ hfault, fun hanswers => absurd hanswers hfails⟩
    obtain ⟨turned, outage, hturned, rfl, rfl⟩ := call_answered hlist
    split at hjob
    · rename_i hnone
      obtain ⟨rfl, rfl⟩ := done_course hjob
      refine ⟨nofun, fun _ => ⟨⟨0, rfl⟩, ?_⟩⟩
      intro entry hmem
      apply isPrefixOf_of_not_listed hmem
      have hempty : turned.server.keysFrom keyStart = [] := List.isEmpty_iff.mp hnone
      exact hempty ▸ List.not_mem_nil
    · rcases bind_course hjob with ⟨failure, rfl, hdrop⟩ | ⟨_, dropped, hdrop, hdone⟩
      · obtain ⟨hfault, hfails⟩ := call_failed hdrop
        exact ⟨fun _ h => Except.error.inj h ▸ hfault, fun hanswers => absurd hanswers hfails⟩
      · obtain ⟨rfl, rfl⟩ := done_course hdone
        refine ⟨nofun, fun _ => ⟨⟨_, rfl⟩, ?_⟩⟩
        obtain ⟨later, _, hlater, -, rfl⟩ := call_answered hdrop
        obtain ⟨_, rfl⟩ := hweather _ _ hlater
        exact isSwept_drop _ turned.server rfl
  rcases houtcome with rfl | ⟨rfl, rfl⟩
  · exact ⟨hinner.1, fun hanswers _ => hinner.2 hanswers⟩
  · refine ⟨nofun, fun hanswers _ => ?_⟩
    obtain ⟨⟨_, hended⟩, -⟩ := hinner.2 hanswers
    cases hended

end ResultCache

end SkillTiers
