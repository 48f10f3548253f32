/-
# Properties of all rows

A request that is not there for changing rules leaves the rows as they are (`Steady`), one
that is changes them as it asks for, and a start adds seed rules if anything. So a property
of rows that the seed rules have and that the change in question keeps is kept by every
event (`KeepsAll`).
-/

import SkillTiers.Proofs.Service.Change

namespace SkillTiers

namespace Service

open Job Renewal

variable {α : Type} {now left : Service} {request : Request} {endpoint : Endpoint}
  {ruleId : String} {holds : Row → Prop}

/-- What is read from the body of a request is read from some value. -/
theorem valid_of_readBody {read : ProblemKind → Json → Reading α} {value : α}
    (hvalid : readBody read request = .valid value) :
    ∃ otherwise body, read otherwise body = .valid value := by
  have hinner := Reading.under_valid (readBody_eq_valid.mp hvalid).2
  cases hbody : request.body with
  | none =>
      rw [hbody] at hinner
      cases hinner
  | some body =>
      rw [hbody] at hinner
      exact ⟨_, _, hinner⟩

/-- The rows are as they were, and so are the settings. -/
structure Steady (service left : Service) : Prop where
  config : left.config = service.config
  rows : left.store.rows = service.store.rows

/-- The settings are as they were, and what held of all rows does. -/
structure KeepsAll (holds : Row → Prop) (service left : Service) : Prop where
  config : left.config = service.config
  rows : (∀ row ∈ service.store.rows, holds row) → ∀ row ∈ left.store.rows, holds row

theorem Idle.steady {service left : Service} (hidle : Idle service left) :
    Steady service left :=
  ⟨hidle.config, hidle.rows⟩

theorem Quiet.steady {service left : Service} (hquiet : Quiet service left) :
    Steady service left :=
  ⟨hquiet.config, hquiet.rows⟩

theorem steady_refl (service : Service) : Steady service service :=
  ⟨rfl, rfl⟩

theorem Steady.trans {first second third : Service} (hfirst : Steady first second)
    (hsecond : Steady second third) : Steady first third :=
  ⟨hsecond.config.trans hfirst.config, hsecond.rows.trans hfirst.rows⟩

theorem Steady.keepsAll {service left : Service} (hsteady : Steady service left) :
    KeepsAll holds service left := by
  refine ⟨hsteady.config, fun hrows => ?_⟩
  rw [hsteady.rows]
  exact hrows

theorem keepsAll_refl (service : Service) : KeepsAll holds service service :=
  ⟨rfl, fun hrows => hrows⟩

theorem KeepsAll.trans {first second third : Service} (hfirst : KeepsAll holds first second)
    (hsecond : KeepsAll holds second third) : KeepsAll holds first third where
  config := hsecond.config.trans hfirst.config
  rows := fun hrows => hsecond.rows (hfirst.rows hrows)

theorem weather_steady {service turned : Service} (hweather : Weather service turned) :
    Steady service turned :=
  (weather_quiet hweather).steady

/-! ### Steps that leave the rows -/

theorem steady_of_idle {job : Job Service α} (hjob : job.Respects Idle) : job.Respects Steady :=
  hjob.mono fun _ _ => Idle.steady

/-- Whatever the cache does, the rows stay as they are. -/
theorem steady_onCache (job : Job ResultCache α) : (onCache job).Respects Steady :=
  (respects_anything job).onPart fun _ _ _ => ⟨rfl, rfl⟩

/-- A request that is not there for changing rules changes none. -/
theorem steady_handle (hchanges : changesRules endpoint = false) (ruleId : String)
    (request : Request) : (handle endpoint ruleId request).Respects Steady := by
  cases endpoint with
  | createRule | updateRule | deleteRule | reorderRules | seedRules => cases hchanges
  | classifyCounts =>
      exact (unrevised_classifyCounts request).mono fun _ _ hkept => ⟨hkept.config, hkept.rows⟩
  | _ => exact steady_of_idle (idle_handle (by decide) ruleId request)

theorem steady_loadRules (rules : List Rule) : (loadRules rules).Respects Steady := by
  intro service
  refine ⟨?_, trivial⟩
  dsimp only
  cases service.engine.load rules with
  | error failure => exact ⟨rfl, rfl⟩
  | ok loaded => exact ⟨rfl, rfl⟩

/-- A course of steady steps leaves the rows as they are. -/
theorem steady_of_course {job : Job Service α} {outcome : Outcome α}
    (hcourse : Course Weather job now outcome left) (hjob : job.Respects Steady) :
    Steady now left :=
  hcourse.respects steady_refl Steady.trans (fun _ _ => weather_steady) hjob

/-! ### Events -/

/-- Seeding adds the seed rules if anything. -/
theorem keepsAll_seed (hseeds : ∀ actor number rows,
      List.Forall₂ (Row.Inserts actor) (Seed.rules number) rows → ∀ row ∈ rows, holds row)
    (actor : Option String) : (onStore (Store.seed actor)).Respects (KeepsAll holds) := by
  refine respects_ask fun service => ⟨rfl, fun hrows => ?_⟩
  cases hresult : Store.seed actor service.store with
  | mk outcome left =>
      rcases Store.seed_cases hresult with ⟨-, hsame⟩ |
        ⟨_, number, seeded, -, -, -, hmore, -, hseeded⟩
      · dsimp only
        rw [hsame]
        exact hrows
      · dsimp only
        rw [hmore]
        exact List.forall_mem_append.mpr ⟨hrows, hseeds _ number seeded hseeded⟩

/-- A start keeps the rows but for those that it seeds. -/
theorem keepsAll_start (hseeds : ∀ actor number rows,
      List.Forall₂ (Row.Inserts actor) (Seed.rules number) rows → ∀ row ∈ rows, holds row) :
    start.Respects (KeepsAll holds) := by
  have hsteady {α : Type} {job : Job Service α} (hjob : job.Respects Steady) :
      job.Respects (KeepsAll holds) := hjob.mono fun _ _ => Steady.keepsAll
  have hidle {α : Type} {job : Job Service α} (hjob : job.Respects Idle) :
      job.Respects (KeepsAll holds) := hsteady (steady_of_idle hjob)
  apply respects_start
  · exact fun read => hidle (idle_look read)
  · exact fun port => hidle (idle_launchMetrics port)
  · exact hidle (idle_onStore Store.keepsRows_start)
  · exact hsteady (steady_onCache _)
  · exact keepsAll_seed hseeds
  · exact (hidle (idle_onStore Store.keepsRows_fetchAll)).bind fun _ =>
      hsteady (steady_loadRules _)

/-- So does every course of a start. -/
theorem keepsAll_of_start (hseeds : ∀ actor number rows,
      List.Forall₂ (Row.Inserts actor) (Seed.rules number) rows → ∀ row ∈ rows, holds row)
    {outcome : Outcome Unit} (hcourse : Course Weather start now outcome left) :
    KeepsAll holds now left :=
  hcourse.respects keepsAll_refl KeepsAll.trans
    (fun _ _ hturned => (weather_steady hturned).keepsAll) (keepsAll_start hseeds)

/-- In whatever way a change of rules ends, the rows are those of the change or as before. -/
theorem Revision.keepsAll {weather : Service → Service → Prop} {outcome : Outcome Reply}
    (hrevision : Revision weather request endpoint ruleId now left outcome)
    (hkeeps : ∀ rows, Revises now.config.strictRules request ruleId now.store.rows endpoint rows →
      (∀ row ∈ now.store.rows, holds row) → ∀ row ∈ rows, holds row) : KeepsAll holds now left := by
  cases hrevision with
  | nothing hquiet _ => exact hquiet.steady.keepsAll
  | committed hrevises hapart _ _ => exact ⟨hapart.config, hkeeps _ hrevises⟩
  | renewed hrevises _ hconfig _ _ _ _ => exact ⟨hconfig, hkeeps _ hrevises⟩

/-- A request keeps what the change that it asks for keeps. -/
theorem keepsAll_of_answer {outcome : Outcome Response}
    (hcourse : Course Weather (answer request) now outcome left)
    (hkeeps : ∀ endpoint ruleId, destinationOf now request = .endpoint endpoint ruleId →
      ∀ rows, Revises now.config.strictRules request ruleId now.store.rows endpoint rows →
        (∀ row ∈ now.store.rows, holds row) → ∀ row ∈ rows, holds row) :
    KeepsAll holds now left := by
  obtain ⟨response, rfl, hends⟩ := answer_course hcourse
  rcases hends with ⟨-, hquiet, -⟩ |
    ⟨endpoint, ruleId, begun, handled, inner, hleads, hbegun, hhandle, hleft, -⟩
  · exact hquiet.steady.keepsAll
  cases hchanges : changesRules endpoint with
  | true =>
      obtain ⟨_, hrevision, -⟩ :=
        answer_revises (fun _ _ hturned => hturned) hleads hchanges hcourse
      exact hrevision.keepsAll (hkeeps endpoint ruleId hleads)
  | false =>
      have hhandled := steady_of_course hhandle (steady_handle hchanges ruleId request)
      exact ((hbegun.steady.trans hhandled).trans hleft.steady).keepsAll

end Service

end SkillTiers
