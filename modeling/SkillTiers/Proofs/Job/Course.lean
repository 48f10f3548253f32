/-
# Jobs one after another

`Job.Course` is the course of a job that has the state to itself, except that the
weather may change it before every call: servers go down and come back whenever
they like. With nothing changing, the course of a job is its `run`. What every
step respects, the whole course respects; and a course of a job that follows an
outline keeps whatever the moves of the outline keep. The course of a job that is put
together from others is put together from their courses, and the laws named `_course`
take it apart. A job that calls no server (`Job.IsLocal`) has its run as its only course.
-/

import SkillTiers.Proofs.Job.Outline

namespace SkillTiers

namespace Job

variable {σ α Stage : Type}

/-- A course of a job from one state to another, with its outcome. -/
inductive Course (weather : σ → σ → Prop) : Job σ α → σ → Outcome α → σ → Prop where
  /-- Nothing is left to do. -/
  | done {outcome : Outcome α} {state : σ} : Course weather (.done outcome) state outcome state
  /-- Work in memory, and the course of the rest. -/
  | touch {β : Type} {act : σ → β × σ} {next : β → Job σ α} {state left : σ}
      {outcome : Outcome α}
      (hrest : Course weather (next (act state).1) (act state).2 outcome left) :
      Course weather (.touch act next) state outcome left
  /-- A call in the weather of the moment, and the course of the rest. -/
  | call {β : Type} {act : σ → β × σ} {next : β → Job σ α} {state turned left : σ}
      {outcome : Outcome α} (hweather : weather state turned)
      (hrest : Course weather (next (act turned).1) (act turned).2 outcome left) :
      Course weather (.call act next) state outcome left

/-- The run of a job where the state turns in one and the same way before each call. -/
def runTurning (turn : σ → σ) : Job σ α → σ → Outcome α × σ
  | .done outcome, state => (outcome, state)
  | .touch act next, state => runTurning turn (next (act state).1) (act state).2
  | .call act next, state =>
      runTurning turn (next (act (turn state)).1) (act (turn state)).2

theorem runTurning_id (job : Job σ α) (state : σ) : job.runTurning id state = job.run state := by
  induction job generalizing state with
  | done outcome => rfl
  | touch act next ih => exact ih (act state).1 (act state).2
  | call act next ih => exact ih (act state).1 (act state).2

/-- Where the weather may turn in one way, the run of a job that it turns so is a course
of it. -/
theorem course_runTurning {weather : σ → σ → Prop} {turn : σ → σ}
    (hturn : ∀ state, weather state (turn state)) (job : Job σ α) (state : σ) :
    Course weather job state (job.runTurning turn state).1 (job.runTurning turn state).2 := by
  induction job generalizing state with
  | done outcome => exact .done
  | touch act next ih => exact .touch (ih (act state).1 (act state).2)
  | call act next ih =>
      exact .call (hturn state) (ih (act (turn state)).1 (act (turn state)).2)

/-- Where the weather may stay as it is, the run of a job is a course of it. -/
theorem course_run {weather : σ → σ → Prop} (hcalm : ∀ state, weather state state)
    (job : Job σ α) (state : σ) :
    Course weather job state (job.run state).1 (job.run state).2 := by
  rw [← runTurning_id]
  exact course_runTurning hcalm job state

/-- A course stays within a relation that the steps and the weather respect. -/
theorem Course.respects {weather related : σ → σ → Prop}
    (hrefl : ∀ state, related state state)
    (htrans : ∀ {first second third}, related first second → related second third →
      related first third)
    (hweather : ∀ state turned, weather state turned → related state turned)
    {job : Job σ α} {state left : σ} {outcome : Outcome α}
    (hcourse : Course weather job state outcome left) (hjob : job.Respects related) :
    related state left := by
  induction hcourse with
  | done => exact hrefl _
  | touch hrest ih => exact htrans (hjob _).1 (ih (hjob _).2)
  | call hturned hrest ih =>
      exact htrans (hweather _ _ hturned) (htrans (hjob _).1 (ih (hjob _).2))

/-- A course through an outline ends at a stage that allows its outcome, and keeps
what all moves and the weather keep. -/
theorem Course.follows {weather : σ → σ → Prop} {outline : Outline σ Stage}
    {allowed : Stage → Outcome α → Prop} {invariant : Stage → σ → Prop}
    (hknown : ∀ stage state, invariant stage state → outline.known state)
    (hweather : ∀ stage state turned, weather state turned → invariant stage state →
      invariant stage turned)
    (hthink : ∀ stage state later changed, invariant stage state →
      outline.think stage state later changed → invariant later changed)
    (hask : ∀ stage state later changed, invariant stage state →
      outline.ask stage state later changed → invariant later changed)
    {job : Job σ α} {state left : σ} {outcome : Outcome α} {stage : Stage}
    (hcourse : Course weather job state outcome left)
    (hjob : job.Follows outline allowed stage) (hinvariant : invariant stage state) :
    ∃ later, allowed later outcome ∧ invariant later left := by
  induction hcourse generalizing stage with
  | done => exact ⟨stage, hjob, hinvariant⟩
  | touch hrest ih =>
      obtain ⟨later, hmove, hnext⟩ := hjob _ (hknown _ _ hinvariant)
      exact ih hnext (hthink _ _ _ _ hinvariant hmove)
  | call hturned hrest ih =>
      have hturn := hweather _ _ _ hturned hinvariant
      obtain ⟨later, hmove, hnext⟩ := hjob _ (hknown _ _ hturn)
      exact ih hnext (hask _ _ _ _ hturn hmove)

/-! ### Courses taken apart -/

section Parts

variable {τ β : Type} {weather : σ → σ → Prop} {state left : σ} {outcome : Outcome α}

theorem done_course {ended : Outcome α}
    (hcourse : Course weather (.done ended) state outcome left) :
    outcome = ended ∧ left = state := by
  cases hcourse
  exact ⟨rfl, rfl⟩

theorem look_course {read : σ → α} (hcourse : Course weather (look read) state outcome left) :
    outcome = .ok (read state) ∧ left = state := by
  cases hcourse with
  | touch hrest => exact done_course hrest

theorem change_course {write : σ → σ} {outcome : Outcome Unit}
    (hcourse : Course weather (change write) state outcome left) :
    outcome = .ok () ∧ left = write state := by
  cases hcourse with
  | touch hrest => exact done_course hrest

theorem tryChange_course {write : σ → Outcome σ} {outcome : Outcome Unit}
    (hcourse : Course weather (tryChange write) state outcome left) :
    (outcome = .ok () ∧ write state = .ok left) ∨
      ∃ failure, outcome = .error failure ∧ write state = .error failure ∧ left = state := by
  cases hcourse with
  | touch hrest =>
      obtain ⟨houtcome, hleft⟩ := done_course hrest
      dsimp only at houtcome hleft
      cases hwrite : write state with
      | ok changed =>
          rw [hwrite] at houtcome hleft
          exact .inl ⟨houtcome, congrArg Except.ok hleft.symm⟩
      | error failure =>
          rw [hwrite] at houtcome hleft
          exact .inr ⟨failure, houtcome, rfl, hleft⟩

theorem ask_course {act : σ → Outcome α × σ}
    (hcourse : Course weather (ask act) state outcome left) :
    ∃ turned, weather state turned ∧ act turned = (outcome, left) := by
  cases hcourse with
  | @call _ _ _ _ turned _ _ hturned hrest =>
      obtain ⟨houtcome, hleft⟩ := done_course hrest
      exact ⟨turned, hturned, Prod.ext houtcome.symm hleft.symm⟩

/-- The second of two jobs has a course only if the first has ended well. -/
theorem bind_course {job : Job σ β} {rest : β → Job σ α}
    (hcourse : Course weather (job >>= rest) state outcome left) :
    (∃ failure, outcome = .error failure ∧ Course weather job state (.error failure) left) ∨
      ∃ value mid, Course weather job state (.ok value) mid ∧
        Course weather (rest value) mid outcome left := by
  change Course weather (job.bind rest) state outcome left at hcourse
  induction job generalizing state with
  | done ended =>
      cases ended with
      | ok value => exact .inr ⟨value, state, .done, hcourse⟩
      | error failure =>
          obtain ⟨rfl, rfl⟩ := done_course hcourse
          exact .inl ⟨failure, rfl, .done⟩
  | touch act next ih =>
      cases hcourse with
      | touch hrest =>
          rcases ih _ hrest with ⟨failure, hfail, hjob⟩ | ⟨value, mid, hjob, hrest⟩
          · exact .inl ⟨failure, hfail, .touch hjob⟩
          · exact .inr ⟨value, mid, .touch hjob, hrest⟩
  | call act next ih =>
      cases hcourse with
      | call hturned hrest =>
          rcases ih _ hrest with ⟨failure, hfail, hjob⟩ | ⟨value, mid, hjob, hrest⟩
          · exact .inl ⟨failure, hfail, .call hturned hjob⟩
          · exact .inr ⟨value, mid, .call hturned hjob, hrest⟩

/-- An attempt ends well, with the outcome of the job. -/
theorem attempt_course {job : Job σ β} {outcome : Outcome (Outcome β)}
    (hcourse : Course weather job.attempt state outcome left) :
    ∃ inner, outcome = .ok inner ∧ Course weather job state inner left := by
  induction job generalizing state with
  | done ended =>
      obtain ⟨rfl, rfl⟩ := done_course hcourse
      exact ⟨ended, rfl, .done⟩
  | touch act next ih =>
      cases hcourse with
      | touch hrest =>
          obtain ⟨inner, hinner, hjob⟩ := ih _ hrest
          exact ⟨inner, hinner, .touch hjob⟩
  | call act next ih =>
      cases hcourse with
      | call hturned hrest =>
          obtain ⟨inner, hinner, hjob⟩ := ih _ hrest
          exact ⟨inner, hinner, .call hturned hjob⟩

/-- After a look the rest goes on with what the state is. -/
theorem look_then_course {read : σ → β} {rest : β → Job σ α}
    (hcourse : Course weather (look read >>= rest) state outcome left) :
    Course weather (rest (read state)) state outcome left := by
  rcases bind_course hcourse with ⟨failure, -, hlook⟩ | ⟨value, mid, hlook, hrest⟩
  · cases (look_course hlook).1
  · obtain ⟨hvalue, rfl⟩ := look_course hlook
    cases hvalue
    exact hrest

/-- After an attempt the rest goes on with the outcome of the job. -/
theorem attempt_then_course {job : Job σ β} {rest : Outcome β → Job σ α}
    (hcourse : Course weather (job.attempt >>= rest) state outcome left) :
    ∃ inner mid, Course weather job state inner mid ∧
      Course weather (rest inner) mid outcome left := by
  rcases bind_course hcourse with ⟨failure, -, hattempt⟩ | ⟨inner, mid, hattempt, hrest⟩
  · obtain ⟨_, hended, -⟩ := attempt_course hattempt
    cases hended
  · obtain ⟨_, hended, hjob⟩ := attempt_course hattempt
    cases hended
    exact ⟨inner, mid, hjob, hrest⟩

/-- A job on a part has a course there, in what the weather means for the part. -/
theorem onPart_course {read : σ → τ} {write : σ → τ → σ} {weatherThere : τ → τ → Prop}
    (hread : ∀ state part, read (write state part) = part)
    (hweather : ∀ state turned, weather state turned → weatherThere (read state) (read turned))
    {job : Job τ α} (hcourse : Course weather (job.onPart read write) state outcome left) :
    Course weatherThere job (read state) outcome (read left) := by
  induction job generalizing state with
  | done ended =>
      obtain ⟨rfl, rfl⟩ := done_course hcourse
      exact .done
  | touch act next ih =>
      cases hcourse with
      | touch hrest =>
          have hnext := ih _ hrest
          unfold within at hnext
          rw [hread] at hnext
          exact .touch hnext
  | call act next ih =>
      cases hcourse with
      | @call _ _ _ _ turned _ _ hturned hrest =>
          have hnext := ih _ hrest
          unfold within at hnext
          rw [hread] at hnext
          exact .call (hweather _ _ hturned) hnext

end Parts

/-! ### Jobs that call no server -/

section Local

variable {β : Type}

/-- From this state on the job calls no server. -/
def IsLocal : Job σ α → σ → Prop
  | .done _, _ => True
  | .touch act next, state => (next (act state).1).IsLocal (act state).2
  | .call _ _, _ => False

/-- The second of two local jobs goes on where the first ends. -/
theorem IsLocal.bind {job : Job σ α} {rest : α → Job σ β} {state : σ} (hjob : job.IsLocal state)
    (hrest : ∀ value, (rest value).IsLocal (job.run state).2) :
    (job >>= rest).IsLocal state := by
  show (job.bind rest).IsLocal state
  induction job generalizing state with
  | done outcome =>
      cases outcome with
      | ok value => exact hrest value
      | error failure => trivial
  | touch act next ih => exact ih (act state).1 hjob hrest
  | call act next ih => exact hjob.elim

theorem IsLocal.attempt {job : Job σ α} {state : σ} (hjob : job.IsLocal state) :
    job.attempt.IsLocal state := by
  induction job generalizing state with
  | done outcome => trivial
  | touch act next ih => exact ih (act state).1 hjob
  | call act next ih => exact hjob.elim

/-- After a look the rest goes on at once. -/
theorem isLocal_look_bind {read : σ → α} {rest : α → Job σ β} {state : σ} :
    (look read >>= rest).IsLocal state ↔ (rest (read state)).IsLocal state :=
  Iff.rfl

theorem run_look_bind (read : σ → α) (rest : α → Job σ β) (state : σ) :
    (look read >>= rest).run state = (rest (read state)).run state :=
  rfl

/-- No weather comes between the steps of a local job: its course is its run. -/
theorem Course.eq_run {weather : σ → σ → Prop} {job : Job σ α} {state left : σ}
    {outcome : Outcome α} (hcourse : Course weather job state outcome left)
    (hlocal : job.IsLocal state) : job.run state = (outcome, left) := by
  induction hcourse with
  | done => rfl
  | touch _ ih => exact ih hlocal
  | call _ _ _ => exact hlocal.elim

end Local

end Job

end SkillTiers
