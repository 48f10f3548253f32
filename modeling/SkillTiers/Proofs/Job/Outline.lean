/-
# What a job does, step by step

Two ways to say what a job may do to the state, both by recursion on the job, so
that they are proved once for each way of putting jobs together. `Job.Respects`
says that every step stays within a relation on states. `Job.Follows` says more:
the job passes through the stages of an outline, which tells for each stage what
work in memory and what a call may do there, and where that leads.

Nothing is said about who else works on the state. `Follows` asks for a move from
every known state, so it holds whatever others do between the steps, as long as
they keep to known states.
-/

import SkillTiers.Job

namespace SkillTiers

namespace Job

variable {σ τ α β Stage : Type}

/-- Every step of the job stays within a relation on states. -/
def Respects (related : σ → σ → Prop) : Job σ α → Prop
  | .done _ => True
  | .touch act next => ∀ state, related state (act state).2 ∧ (next (act state).1).Respects related
  | .call act next => ∀ state, related state (act state).2 ∧ (next (act state).1).Respects related

/-- The course of a kind of job: what its steps may do at each stage. -/
structure Outline (σ Stage : Type) where
  /-- What always holds of the state. -/
  known : σ → Prop
  /-- What work in memory may do, and the stage it leads to. -/
  think : Stage → σ → Stage → σ → Prop
  /-- What a call may do, and the stage it leads to. -/
  ask : Stage → σ → Stage → σ → Prop

/-- Every step of the job is a move of the outline, from the stage that the steps
before have led to; where the job ends, its outcome is one that the stage allows. -/
def Follows (outline : Outline σ Stage) (allowed : Stage → Outcome α → Prop) :
    Job σ α → Stage → Prop
  | .done outcome, stage => allowed stage outcome
  | .touch act next, stage => ∀ state, outline.known state →
      ∃ later, outline.think stage state later (act state).2 ∧
        (next (act state).1).Follows outline allowed later
  | .call act next, stage => ∀ state, outline.known state →
      ∃ later, outline.ask stage state later (act state).2 ∧
        (next (act state).1).Follows outline allowed later

/-! ### Steps within a relation -/

section Respects

variable {related : σ → σ → Prop}

theorem respects_done (outcome : Outcome α) : (Job.done outcome : Job σ α).Respects related :=
  trivial

/-- Looking changes nothing. -/
theorem respects_look (hrefl : ∀ state, related state state) (read : σ → α) :
    (look read).Respects related :=
  fun state => ⟨hrefl state, trivial⟩

theorem respects_change {write : σ → σ} (hwrite : ∀ state, related state (write state)) :
    (change write).Respects related :=
  fun state => ⟨hwrite state, trivial⟩

theorem respects_ask {act : σ → Outcome α × σ} (hact : ∀ state, related state (act state).2) :
    (ask act).Respects related :=
  fun state => ⟨hact state, trivial⟩

/-- Two jobs in a row stay within the relation if both do. -/
theorem Respects.bind {job : Job σ α} {rest : α → Job σ β} (hjob : job.Respects related)
    (hrest : ∀ value, (rest value).Respects related) : (job >>= rest).Respects related := by
  show (job.bind rest).Respects related
  induction job with
  | done outcome =>
      cases outcome with
      | ok value => exact hrest value
      | error failure => trivial
  | touch act next ih =>
      intro state
      exact ⟨(hjob state).1, ih (act state).1 (hjob state).2⟩
  | call act next ih =>
      intro state
      exact ⟨(hjob state).1, ih (act state).1 (hjob state).2⟩

theorem Respects.attempt {job : Job σ α} (hjob : job.Respects related) :
    job.attempt.Respects related := by
  induction job with
  | done outcome => trivial
  | touch act next ih =>
      intro state
      exact ⟨(hjob state).1, ih (act state).1 (hjob state).2⟩
  | call act next ih =>
      intro state
      exact ⟨(hjob state).1, ih (act state).1 (hjob state).2⟩

/-- A job on a part stays within what its steps on the part mean for the whole. -/
theorem Respects.onPart {part : τ → τ → Prop} {read : σ → τ} {write : σ → τ → σ}
    (hwrite : ∀ state changed, part (read state) changed → related state (write state changed))
    {job : Job τ α} (hjob : job.Respects part) : (job.onPart read write).Respects related := by
  induction job with
  | done outcome => trivial
  | touch act next ih =>
      intro state
      exact ⟨hwrite state _ (hjob (read state)).1, ih (act (read state)).1 (hjob (read state)).2⟩
  | call act next ih =>
      intro state
      exact ⟨hwrite state _ (hjob (read state)).1, ih (act (read state)).1 (hjob (read state)).2⟩

/-- Every job stays within the relation of all states. -/
theorem respects_anything (job : Job σ α) : job.Respects fun _ _ => True := by
  induction job with
  | done outcome => trivial
  | touch act next ih => exact fun state => ⟨trivial, ih (act state).1⟩
  | call act next ih => exact fun state => ⟨trivial, ih (act state).1⟩

/-- Steps within a relation are within a wider one. -/
theorem Respects.mono {wider : σ → σ → Prop}
    (hwider : ∀ state changed, related state changed → wider state changed)
    {job : Job σ α} (hjob : job.Respects related) : job.Respects wider := by
  induction job with
  | done outcome => trivial
  | touch act next ih =>
      intro state
      exact ⟨hwider _ _ (hjob state).1, ih (act state).1 (hjob state).2⟩
  | call act next ih =>
      intro state
      exact ⟨hwider _ _ (hjob state).1, ih (act state).1 (hjob state).2⟩

end Respects

/-! ### Moves of an outline -/

section Follows

variable {outline : Outline σ Stage} {allowed : Stage → Outcome α → Prop} {stage : Stage}

/-- A job that allows less follows an outline that allows more. -/
theorem Follows.mono {wider : Stage → Outcome α → Prop} {job : Job σ α}
    (hjob : job.Follows outline allowed stage)
    (hwider : ∀ stage outcome, allowed stage outcome → wider stage outcome) :
    job.Follows outline wider stage := by
  induction job generalizing stage with
  | done outcome => exact hwider stage outcome hjob
  | touch act next ih =>
      intro state hknown
      obtain ⟨later, hmove, hnext⟩ := hjob state hknown
      exact ⟨later, hmove, ih (act state).1 hnext⟩
  | call act next ih =>
      intro state hknown
      obtain ⟨later, hmove, hnext⟩ := hjob state hknown
      exact ⟨later, hmove, ih (act state).1 hnext⟩

/-- The second of two jobs takes over at the stage where the first ends. -/
theorem Follows.bind {ended : Stage → Outcome β → Prop} {job : Job σ α} {rest : α → Job σ β}
    (hjob : job.Follows outline allowed stage)
    (hrest : ∀ later value, allowed later (.ok value) →
      (rest value).Follows outline ended later)
    (hfail : ∀ later failure, allowed later (.error failure) → ended later (.error failure)) :
    (job >>= rest).Follows outline ended stage := by
  show (job.bind rest).Follows outline ended stage
  induction job generalizing stage with
  | done outcome =>
      cases outcome with
      | ok value => exact hrest stage value hjob
      | error failure => exact hfail stage failure hjob
  | touch act next ih =>
      intro state hknown
      obtain ⟨later, hmove, hnext⟩ := hjob state hknown
      exact ⟨later, hmove, ih (act state).1 hnext⟩
  | call act next ih =>
      intro state hknown
      obtain ⟨later, hmove, hnext⟩ := hjob state hknown
      exact ⟨later, hmove, ih (act state).1 hnext⟩

/-- An outcome that is at hand is handed on at the same stage. -/
theorem follows_done_bind {ended : Stage → Outcome β → Prop} {outcome : Outcome α}
    {rest : α → Job σ β}
    (hrest : ∀ value, outcome = .ok value → (rest value).Follows outline ended stage)
    (hfail : ∀ failure, outcome = .error failure → ended stage (.error failure)) :
    (Job.done outcome >>= rest).Follows outline ended stage := by
  cases outcome with
  | ok value => exact hrest value rfl
  | error failure => exact hfail failure rfl

/-- A look at the state may lead on to a later stage. -/
theorem follows_look_bind {ended : Stage → Outcome β → Prop} {read : σ → α}
    {rest : α → Job σ β}
    (hrest : ∀ state, outline.known state → ∃ later, outline.think stage state later state ∧
      (rest (read state)).Follows outline ended later) :
    (look read >>= rest).Follows outline ended stage :=
  hrest

/-- An attempt ends where the job ends. -/
theorem Follows.attempt {ended : Stage → Outcome (Outcome α) → Prop} {job : Job σ α}
    (hjob : job.Follows outline allowed stage)
    (hended : ∀ later outcome, allowed later outcome → ended later (.ok outcome)) :
    job.attempt.Follows outline ended stage := by
  induction job generalizing stage with
  | done outcome => exact hended stage outcome hjob
  | touch act next ih =>
      intro state hknown
      obtain ⟨later, hmove, hnext⟩ := hjob state hknown
      exact ⟨later, hmove, ih (act state).1 hnext⟩
  | call act next ih =>
      intro state hknown
      obtain ⟨later, hmove, hnext⟩ := hjob state hknown
      exact ⟨later, hmove, ih (act state).1 hnext⟩

/-- Steps that every stage allows do not leave the stage. -/
theorem Respects.follows {related : σ → σ → Prop} {job : Job σ α}
    (hjob : job.Respects related)
    (hthink : ∀ state changed, related state changed →
      outline.think stage state stage changed)
    (hask : ∀ state changed, related state changed → outline.ask stage state stage changed)
    (hallowed : ∀ outcome, allowed stage outcome) : job.Follows outline allowed stage := by
  induction job with
  | done outcome => exact hallowed outcome
  | touch act next ih =>
      intro state _
      exact ⟨stage, hthink _ _ (hjob state).1, ih (act state).1 (hjob state).2⟩
  | call act next ih =>
      intro state _
      exact ⟨stage, hask _ _ (hjob state).1, ih (act state).1 (hjob state).2⟩

/-- Steps that the stage allows, and the rest of the job from the same stage. -/
theorem Respects.bind_follows {related : σ → σ → Prop} {ended : Stage → Outcome β → Prop}
    {job : Job σ α} {rest : α → Job σ β} (hjob : job.Respects related)
    (hthink : ∀ state changed, related state changed →
      outline.think stage state stage changed)
    (hask : ∀ state changed, related state changed → outline.ask stage state stage changed)
    (hrest : ∀ value, (rest value).Follows outline ended stage)
    (hfail : ∀ failure, ended stage (.error failure)) :
    (job >>= rest).Follows outline ended stage := by
  have hfirst : job.Follows outline (fun later _ => later = stage) stage :=
    hjob.follows hthink hask fun _ => rfl
  apply hfirst.bind
  · intro later value hsame
    rw [hsame]
    exact hrest value
  · intro later failure hsame
    rw [hsame]
    exact hfail failure

end Follows

end Job

end SkillTiers
