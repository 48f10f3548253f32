/-
# Jobs

A job is work on a state that it shares with other jobs. It looks at the state
and changes it in two ways: a touch is work in memory, which goes on at once,
while a call goes to an outside server, and other jobs may come before and after
it. A job ends with an outcome; a failure ends it early, with the state as it was
left. `run` is the course of a job that no other job comes between, and the laws
of `run` say how it passes through the ways of putting jobs together.
-/

import SkillTiers.Failure

namespace SkillTiers

/-- Work on a shared state that ends with an outcome. -/
inductive Job (σ : Type) (α : Type) : Type 1 where
  /-- The end. -/
  | done (outcome : Outcome α)
  /-- Work in memory. -/
  | touch {β : Type} (act : σ → β × σ) (next : β → Job σ α)
  /-- A call of an outside server. -/
  | call {β : Type} (act : σ → β × σ) (next : β → Job σ α)

namespace Job

variable {σ τ α β : Type}

/-- The outcome of a job on its own, and the state it leaves. -/
def run : Job σ α → σ → Outcome α × σ
  | .done outcome, state => (outcome, state)
  | .touch act next, state => run (next (act state).1) (act state).2
  | .call act next, state => run (next (act state).1) (act state).2

/-- One job and then another, unless the first fails. -/
def bind : Job σ α → (α → Job σ β) → Job σ β
  | .done (.ok value), rest => rest value
  | .done (.error cause), _ => .done (.error cause)
  | .touch act next, rest => .touch act fun value => (next value).bind rest
  | .call act next, rest => .call act fun value => (next value).bind rest

instance : Monad (Job σ) where
  pure value := .done (.ok value)
  bind := bind

/-- The job that fails at once. -/
def fail (cause : Failure) : Job σ α :=
  .done (.error cause)

/-- The job that reads the state. -/
def look (read : σ → α) : Job σ α :=
  .touch (fun state => (read state, state)) fun value => .done (.ok value)

/-- The job that changes the state. -/
def change (write : σ → σ) : Job σ Unit :=
  .touch (fun state => ((), write state)) fun value => .done (.ok value)

/-- The job that changes the state unless that fails. -/
def tryChange (write : σ → Outcome σ) : Job σ Unit :=
  .touch (fun state =>
    match write state with
    | .ok changed => (.ok (), changed)
    | .error cause => (.error cause, state)) .done

/-- The job of one call, which may fail. -/
def ask (act : σ → Outcome α × σ) : Job σ α :=
  .call act .done

/-- The job that ends well, with the outcome of another. -/
def attempt : Job σ α → Job σ (Outcome α)
  | .done outcome => .done (.ok outcome)
  | .touch act next => .touch act fun value => (next value).attempt
  | .call act next => .call act fun value => (next value).attempt

/-- What is done to a part of a state, done to the whole. -/
def within (read : σ → τ) (write : σ → τ → σ) (act : τ → β × τ) (state : σ) :
    β × σ :=
  ((act (read state)).1, write state (act (read state)).2)

/-- A job on a part of a state as a job on the whole. -/
def onPart (read : σ → τ) (write : σ → τ → σ) : Job τ α → Job σ α
  | .done outcome => .done outcome
  | .touch act next => .touch (within read write act) fun value => (next value).onPart read write
  | .call act next => .call (within read write act) fun value => (next value).onPart read write

/-- A failed job has no rest; a job that ends well hands over its value and its
state. -/
theorem run_bind (job : Job σ α) (rest : α → Job σ β) (state : σ) :
    (job >>= rest).run state =
      match job.run state with
      | (.ok value, left) => (rest value).run left
      | (.error cause, left) => (.error cause, left) := by
  show (job.bind rest).run state = _
  induction job generalizing state with
  | done outcome => cases outcome <;> rfl
  | touch act next ih => exact ih (act state).1 (act state).2
  | call act next ih => exact ih (act state).1 (act state).2

/-- An attempt leaves the state that the job leaves. -/
theorem run_attempt (job : Job σ α) (state : σ) :
    job.attempt.run state = (.ok (job.run state).1, (job.run state).2) := by
  induction job generalizing state with
  | done outcome => rfl
  | touch act next ih => exact ih (act state).1 (act state).2
  | call act next ih => exact ih (act state).1 (act state).2

/-- A job on a part changes the whole only there. -/
theorem run_onPart (read : σ → τ) (write : σ → τ → σ)
    (read_write : ∀ state part, read (write state part) = part)
    (write_write : ∀ state part part', write (write state part) part' = write state part')
    (write_read : ∀ state, write state (read state) = state)
    (job : Job τ α) (state : σ) :
    (job.onPart read write).run state =
      ((job.run (read state)).1, write state (job.run (read state)).2) := by
  induction job generalizing state with
  | done outcome => simp [onPart, run, write_read]
  | touch act next ih => simp [onPart, run, within, ih, read_write, write_write]
  | call act next ih => simp [onPart, run, within, ih, read_write, write_write]

end Job

end SkillTiers
