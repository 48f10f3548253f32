/-
# Jobs at the same time

A crew is several jobs on one state. In a turn a job makes the call that it waits
for, or else goes on in memory up to its next call or its end; so each call is a
step of its own, and the work between two calls is one step. A schedule says whose
turn it is, in any order and for as long as it likes; a job that has ended lets
its turns pass.
-/

import SkillTiers.Proofs.Job.Outline
import Mathlib.Data.List.Induction
import Mathlib.Data.List.Infix
import Mathlib.Logic.Function.Basic

namespace SkillTiers

namespace Job

variable {σ α Stage : Type}

/-- The work in memory up to the next call, and the job that is left. -/
def settle : Job σ α → σ → Job σ α × σ
  | .touch act next, state => settle (next (act state).1) (act state).2
  | .call act next, state => (.call act next, state)
  | .done outcome, state => (.done outcome, state)

/-- One turn of a job: its call, or else its work up to the next call. -/
def turn : Job σ α → σ → Job σ α × σ
  | .call act next, state => (next (act state).1, (act state).2)
  | job, state => job.settle state

/-- The outcome of a job that has ended. -/
def outcome? : Job σ α → Option (Outcome α)
  | .done outcome => some outcome
  | _ => none

end Job

/-- Jobs that work on one state. -/
structure Crew (ι σ α : Type) where
  state : σ
  jobs : ι → Job σ α

namespace Crew

/-- Either nothing that is watched on the way through a schedule ever changes, or
some turn is the last one that changes it. -/
theorem last_change {ι Watched : Type} (watched : List ι → Watched) (schedule : List ι) :
    (∀ front, front <+: schedule → watched front = watched []) ∨
      ∃ front member back, schedule = front ++ member :: back ∧
        watched (front ++ [member]) ≠ watched front ∧
        ∀ turns, turns <+: back →
          watched (front ++ member :: turns) = watched (front ++ [member]) := by
  induction schedule using List.reverseRecOn with
  | nil =>
      left
      intro front hfront
      rw [List.prefix_nil.mp hfront]
  | append_singleton schedule last ih =>
      by_cases hlast : watched (schedule ++ [last]) = watched schedule
      · rcases ih with hsame | ⟨front, member, back, rfl, hchange, hsame⟩
        · left
          intro front hfront
          rcases List.prefix_concat_iff.mp hfront with rfl | hbefore
          · rw [hlast, hsame _ List.prefix_rfl]
          · exact hsame front hbefore
        · right
          refine ⟨front, member, back ++ [last], by simp, hchange, ?_⟩
          intro turns hturns
          rcases List.prefix_concat_iff.mp hturns with rfl | hbefore
          · have hwhole := hsame back List.prefix_rfl
            rw [← hwhole, ← hlast]
            simp
          · exact hsame turns hbefore
      · right
        refine ⟨schedule, last, [], rfl, hlast, ?_⟩
        intro turns hturns
        rw [List.prefix_nil.mp hturns]

variable {ι σ α : Type} [DecidableEq ι]

/-- The crew after a turn of one of its jobs. -/
def turn (crew : Crew ι σ α) (member : ι) : Crew ι σ α where
  state := ((crew.jobs member).turn crew.state).2
  jobs := Function.update crew.jobs member ((crew.jobs member).turn crew.state).1

/-- The crew after the turns of a schedule. -/
def after (crew : Crew ι σ α) (schedule : List ι) : Crew ι σ α :=
  schedule.foldl turn crew

@[simp] theorem after_nil (crew : Crew ι σ α) : crew.after [] = crew :=
  rfl

theorem after_append (crew : Crew ι σ α) (front back : List ι) :
    crew.after (front ++ back) = (crew.after front).after back :=
  List.foldl_append

theorem after_concat (crew : Crew ι σ α) (front : List ι) (member : ι) :
    crew.after (front ++ [member]) = (crew.after front).turn member := by
  rw [after_append]
  rfl

/-- The job whose turn it is goes on. -/
@[simp] theorem turn_jobs_self (crew : Crew ι σ α) (member : ι) :
    (crew.turn member).jobs member = ((crew.jobs member).turn crew.state).1 :=
  Function.update_self _ _ _

/-- The other jobs stay where they are. -/
theorem turn_jobs_of_ne (crew : Crew ι σ α) {member other : ι} (hne : other ≠ member) :
    (crew.turn member).jobs other = crew.jobs other :=
  Function.update_of_ne hne _ _

end Crew

namespace Job

variable {σ α Stage : Type}

/-- Work in memory stays within a relation that the job respects, and so does what
is left of the job. -/
theorem Respects.settle {related : σ → σ → Prop} (hrefl : ∀ state, related state state)
    (htrans : ∀ {first second third}, related first second → related second third →
      related first third)
    {job : Job σ α} (hjob : job.Respects related) (state : σ) :
    related state (job.settle state).2 ∧ (job.settle state).1.Respects related := by
  induction job generalizing state with
  | done outcome => exact ⟨hrefl state, trivial⟩
  | touch act next ih =>
      obtain ⟨hact, hnext⟩ := hjob state
      obtain ⟨hrest, hleft⟩ := ih (act state).1 hnext (act state).2
      exact ⟨htrans hact hrest, hleft⟩
  | call act next ih => exact ⟨hrefl state, hjob⟩

/-- A turn stays within a relation that the job respects, and so does what is left
of the job. -/
theorem Respects.turn {related : σ → σ → Prop} (hrefl : ∀ state, related state state)
    (htrans : ∀ {first second third}, related first second → related second third →
      related first third)
    {job : Job σ α} (hjob : job.Respects related) (state : σ) :
    related state (job.turn state).2 ∧ (job.turn state).1.Respects related := by
  cases job with
  | call act next => exact hjob state
  | done outcome => exact hjob.settle hrefl htrans state
  | touch act next => exact hjob.settle hrefl htrans state

variable {outline : Outline σ Stage} {allowed : Stage → Outcome α → Prop}
  {invariant : Stage → σ → Prop}

/-- Work in memory leads through stages and keeps what each of its moves keeps. -/
theorem Follows.settle (hknown : ∀ stage state, invariant stage state → outline.known state)
    (hthink : ∀ stage state later changed, invariant stage state →
      outline.think stage state later changed → invariant later changed)
    {job : Job σ α} {stage : Stage} {state : σ} (hjob : job.Follows outline allowed stage)
    (hinvariant : invariant stage state) :
    ∃ later, (job.settle state).1.Follows outline allowed later ∧
      invariant later (job.settle state).2 := by
  induction job generalizing stage state with
  | done outcome => exact ⟨stage, hjob, hinvariant⟩
  | touch act next ih =>
      obtain ⟨later, hmove, hnext⟩ := hjob state (hknown _ _ hinvariant)
      exact ih (act state).1 hnext (hthink _ _ _ _ hinvariant hmove)
  | call act next ih => exact ⟨stage, hjob, hinvariant⟩

/-- A turn is the one call that the outline allows at the stage, or work in memory
that keeps what each of its moves keeps. -/
theorem Follows.turn (hknown : ∀ stage state, invariant stage state → outline.known state)
    (hthink : ∀ stage state later changed, invariant stage state →
      outline.think stage state later changed → invariant later changed)
    {job : Job σ α} {stage : Stage} {state : σ} (hjob : job.Follows outline allowed stage)
    (hinvariant : invariant stage state) :
    ∃ later, (job.turn state).1.Follows outline allowed later ∧
      (outline.ask stage state later (job.turn state).2 ∨
        invariant later (job.turn state).2) := by
  cases job with
  | call act next =>
      obtain ⟨later, hmove, hnext⟩ := hjob state (hknown _ _ hinvariant)
      exact ⟨later, hnext, .inl hmove⟩
  | done outcome =>
      obtain ⟨later, hnext, hkept⟩ := hjob.settle hknown hthink hinvariant
      exact ⟨later, hnext, .inr hkept⟩
  | touch act next =>
      obtain ⟨later, hnext, hkept⟩ := hjob.settle hknown hthink hinvariant
      exact ⟨later, hnext, .inr hkept⟩

end Job

end SkillTiers
