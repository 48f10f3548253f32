/-
# Jobs that give a result

`Job.Yields` is total: a job that has the state to itself ends with a result, if the
state is one that is known, and leaves such a state behind. Jobs that are put together
yield what their parts yield, one after the other.
-/

import SkillTiers.Job
import SkillTiers.Proofs.Outcome

namespace SkillTiers

namespace Job

variable {σ τ α β : Type} {known : σ → Prop}

/-- From a state that is known the job comes to an allowed result and to a state that is
known. -/
def Yields (known : σ → Prop) (allowed : α → Prop) (job : Job σ α) : Prop :=
  ∀ state, known state →
    ∃ value, (job.run state).1 = .ok value ∧ allowed value ∧ known (job.run state).2

theorem yields_return {allowed : α → Prop} {value : α} (hallowed : allowed value) :
    Yields known allowed (pure value) :=
  fun _ hknown => ⟨value, rfl, hallowed, hknown⟩

theorem yields_done {allowed : α → Prop} {outcome : Outcome α}
    (houtcome : ∃ value, outcome = .ok value ∧ allowed value) :
    Yields known allowed (.done outcome) := by
  obtain ⟨value, rfl, hallowed⟩ := houtcome
  exact yields_return hallowed

theorem yields_of_isResult {outcome : Outcome α} (houtcome : IsResult outcome) :
    Yields known (fun _ => True) (.done outcome) := by
  obtain ⟨value, rfl⟩ := houtcome
  exact yields_return trivial

theorem yields_look {allowed : α → Prop} {read : σ → α}
    (hread : ∀ state, known state → allowed (read state)) :
    Yields known allowed (look read) :=
  fun state hknown => ⟨read state, rfl, hread state hknown, hknown⟩

theorem yields_read (read : σ → α) : Yields known (fun _ => True) (look read) :=
  yields_look fun _ _ => trivial

theorem yields_change {write : σ → σ} (hwrite : ∀ state, known state → known (write state)) :
    Yields known (fun _ => True) (change write) :=
  fun state hknown => ⟨(), rfl, trivial, hwrite state hknown⟩

theorem Yields.bind {first : α → Prop} {second : β → Prop} {job : Job σ α}
    {rest : α → Job σ β} (hjob : Yields known first job)
    (hrest : ∀ value, first value → Yields known second (rest value)) :
    Yields known second (job >>= rest) := by
  intro state hknown
  obtain ⟨value, hvalue, hfirst, hleft⟩ := hjob state hknown
  have hrun : (job >>= rest).run state = (rest value).run (job.run state).2 := by
    rw [run_bind]
    generalize job.run state = ended at hvalue
    obtain ⟨outcome, left⟩ := ended
    cases hvalue
    rfl
  rw [hrun]
  exact hrest value hfirst _ hleft

theorem Yields.mono {first second : α → Prop} {job : Job σ α} (hjob : Yields known first job)
    (hsecond : ∀ value, first value → second value) : Yields known second job := by
  intro state hknown
  obtain ⟨value, hvalue, hfirst, hleft⟩ := hjob state hknown
  exact ⟨value, hvalue, hsecond value hfirst, hleft⟩

theorem Yields.attempt {allowed : α → Prop} {job : Job σ α} (hjob : Yields known allowed job) :
    Yields known (fun outcome => ∃ value, outcome = .ok value ∧ allowed value) job.attempt := by
  intro state hknown
  obtain ⟨value, hvalue, hallowed, hleft⟩ := hjob state hknown
  rw [run_attempt]
  exact ⟨_, rfl, ⟨value, hvalue, hallowed⟩, hleft⟩

/-- A job on a part yields what it yields there. -/
theorem Yields.onPart {allowed : α → Prop} {knownThere : τ → Prop} {read : σ → τ}
    {write : σ → τ → σ} (read_write : ∀ state part, read (write state part) = part)
    (write_write : ∀ state part part', write (write state part) part' = write state part')
    (write_read : ∀ state, write state (read state) = state)
    (hread : ∀ state, known state → knownThere (read state))
    (hwrite : ∀ state part, known state → knownThere part → known (write state part))
    {job : Job τ α} (hjob : Yields knownThere allowed job) :
    Yields known allowed (job.onPart read write) := by
  intro state hknown
  obtain ⟨value, hvalue, hallowed, hleft⟩ := hjob (read state) (hread state hknown)
  rw [run_onPart read write read_write write_write write_read]
  exact ⟨value, hvalue, hallowed, hwrite state _ hknown hleft⟩

end Job

end SkillTiers
