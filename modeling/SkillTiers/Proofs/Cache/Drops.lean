/-
# Cache jobs that keep nothing new

Except for keeping a decision, no job of the cache puts anything on the server:
what is there afterwards was there before. This holds whatever calls fail, so a
decision may be left over from rules that are gone, but none is made up.
-/

import SkillTiers.Cache.Results
import SkillTiers.Proofs.Job.Outline

namespace SkillTiers

namespace ResultCache

open Job

variable {α : Type}

/-- The cache holds nothing that it did not hold before. -/
def Drops (cache left : ResultCache) : Prop :=
  ∀ entry ∈ left.server.entries, entry ∈ cache.server.entries

theorem drops_refl (cache : ResultCache) : Drops cache cache :=
  fun _ hmem => hmem

/-- A call drops entries at most if its effect does; one that fails changes none. -/
theorem respects_call {act : CacheServer → α × CacheServer}
    (hact : ∀ server : CacheServer, ∀ entry ∈ (act server).2.entries, entry ∈ server.entries) :
    (call act).Respects Drops := by
  refine respects_ask fun cache => ?_
  intro entry hmem
  dsimp only at hmem
  unfold CacheServer.call at hmem
  cases hnext : cache.server.outage.next with
  | mk fault outage =>
      rw [hnext] at hmem
      cases fault with
      | none => exact hact { cache.server with outage } entry hmem
      | some fault => exact hmem

theorem respects_sparing {answer : α} {job : Job ResultCache α} (hjob : job.Respects Drops) :
    (sparing answer job).Respects Drops := by
  refine hjob.attempt.bind fun outcome => ?_
  cases outcome with
  | ok value => exact respects_done _
  | error cause =>
      cases cause with
      | fault fault => cases fault <;> exact respects_done _
      | _ => exact respects_done _

theorem respects_online {answer : α} {job : Job ResultCache α} (hjob : job.Respects Drops) :
    (online answer job).Respects Drops := by
  refine (respects_look drops_refl _).bind fun isConnected => ?_
  cases isConnected with
  | true => exact respects_sparing hjob
  | false => exact respects_done _

theorem respects_start : start.Respects Drops := by
  refine (respects_change fun _ => drops_refl _).bind fun _ => ?_
  refine (respects_call fun _ _ hmem => hmem).attempt.bind fun outcome => ?_
  cases outcome with
  | ok value => exact respects_done _
  | error cause =>
      cases cause with
      | fault fault => cases fault <;> exact respects_done _
      | _ => exact respects_done _

theorem respects_invalidateAll : invalidateAll.Respects Drops := by
  refine respects_online ((respects_call fun _ _ hmem => hmem).bind fun keys => ?_)
  split
  · exact respects_done _
  · refine (respects_call fun server entry hmem => ?_).bind fun _ => respects_done _
    exact (List.mem_filter.mp hmem).1

theorem respects_stats : stats.Respects Drops := by
  refine respects_online ((respects_call fun _ _ hmem => hmem).bind fun info => ?_)
  refine (respects_call fun _ _ hmem => hmem).bind fun keys => ?_
  exact (respects_done _).bind fun _ => respects_done _

theorem respects_isHealthy : isHealthy.Respects Drops :=
  respects_online ((respects_call fun _ _ hmem => hmem).bind fun _ => respects_done _)

end ResultCache

end SkillTiers
