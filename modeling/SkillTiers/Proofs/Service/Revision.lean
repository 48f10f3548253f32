/-
# What a request that changes rules does

Such a request writes at most once, and then it refreshes the engine and the cache.
`Revises` says what it may write: the rows afterwards, from the rows before and what
the request asks for. `Revision` says how the request can end: nothing has happened,
or the write is committed and the engine is as before or has the rules of the table.
Every course of such a request ends in one of these ways (`handle_revises`), in
whatever way calls fail on it.
-/

import SkillTiers.Proofs.Cache.Sweep
import SkillTiers.Proofs.Request.Conditions
import SkillTiers.Proofs.Service.Response

namespace SkillTiers

namespace Service

open Job Renewal

/-- The change of the table that a request can make: the rows after it. -/
inductive Revises (strict : Bool) (request : Request) (ruleId : String) (rows : List Row) :
    Endpoint → List Row → Prop where
  /-- A rule that passes the check is added. -/
  | create {draft : RuleDraft} {issues : List Issue} {row : Row}
      (hbody : readBody RuleDraft.read request = .valid draft)
      (hcheck : draft.toRule.check strict = .ok issues)
      (hrow : Row.Inserts (nonempty? request.actor?) draft.toRule row)
      (hnew : rows.any (·.id == row.id) = false) :
      Revises strict request ruleId rows .createRule (rows ++ [row])
  /-- The rule with the id, which passes the check as it will be, is changed. -/
  | update {change : RuleChange} {issues : List Issue} {row : Row} {stored : StoredRule}
      (instant : Instant) (hbody : readBody RuleChange.read request = .valid change)
      (hfound : Row.find? rows ruleId = some row) (hstored : row.toRule = .ok stored)
      (hcheck : (change.applyTo stored.rule).check strict = .ok issues) :
      Revises strict request ruleId rows .updateRule (Row.modify rows ruleId fun row =>
        (row.updated change.toUpdate).stamped (nonempty? request.actor?) instant)
  /-- The rule with the id is gone. -/
  | delete : Revises strict request ruleId rows .deleteRule (rows.filter (·.id != ruleId))
  /-- Rules have other places. -/
  | reorder {placements : List Placement} {placed : List Row}
      (hbody : readBody Placement.readAll request = .valid placements)
      (hplaces : Row.Places (nonempty? request.actor?)
        (placements.map fun placement => (placement.id, (placement.displayOrder : Int)))
        rows placed) : Revises strict request ruleId rows .reorderRules placed
  /-- The seed rules are added. -/
  | seed {seeded : List Row} (number : Nat) (hempty : Store.hasRows rows = false)
      (hseeded : List.Forall₂ (Row.Inserts (nonempty? request.actor?)) (Seed.rules number)
        seeded) : Revises strict request ruleId rows .seedRules (rows ++ seeded)

/-- The cache server answers whenever it is called. -/
def SparesCache (weather : Service → Service → Prop) : Prop :=
  ∀ service turned, weather service turned → turned.cache.Answers

/-- How a request that changes rules can end. -/
inductive Revision (weather : Service → Service → Prop) (request : Request)
    (endpoint : Endpoint) (ruleId : String) (now left : Service) (outcome : Outcome Reply) :
    Prop where
  /-- Nothing has happened, and that is no success unless nothing was there to do. -/
  | nothing (hquiet : Quiet now left)
      (hnone : ∀ reply, outcome = .ok reply → IsSuccess reply.status →
        endpoint = .seedRules ∧ NoneSeeded reply.body)
  /-- The change is in the table alone. -/
  | committed {failure : Failure}
      (hrevises : Revises now.config.strictRules request ruleId now.store.rows endpoint
        left.store.rows)
      (hapart : Apart now left) (houtcome : outcome = .error failure)
      (hsevere : failure.IsSevere ∨
        (endpoint = .deleteRule ∧ now.store.rows.countP (·.id == ruleId) ≠ 1))
  /-- The change is in the table, and the engine has the rules of the table. -/
  | renewed
      (hrevises : Revises now.config.strictRules request ruleId now.store.rows endpoint
        left.store.rows)
      (hrole : left.role = now.role) (hconfig : left.config = now.config)
      (hstep : InStep left) (hreply : ∀ reply, outcome = .ok reply → IsSuccess reply.status)
      (hfailure : FailsWithin Failure.IsSevere outcome)
      (hswept : SparesCache weather → now.cache.isConnected = true → left.cache.IsSwept)

variable {weather : Service → Service → Prop} {now mid left : Service} {request : Request}
  {α : Type}

/-! ### Failures of what a refresh does -/

theorem failsWithin_versionOf (rules : List (Tier × Rule)) :
    FailsWithin Failure.IsOfData (Rule.versionOf rules) := by
  have hcheck : FailsWithin Failure.IsOfData (Rule.checkCanonical rules) := by
    unfold Rule.checkCanonical
    split
    · exact failsWithin_error trivial
    · exact Outcome.failsWithin_ofWriting _
  unfold Rule.versionOf
  split
  · exact failsWithin_ok _ _
  · exact hcheck.bind fun _ => failsWithin_ok _ _

theorem failsWithin_build (rules : List Rule) :
    FailsWithin Failure.IsOfData (RuleSet.build rules) := by
  have hfirst : FailsWithin Failure.IsOfData (RuleSet.firstOfLevels rules) :=
    (failsWithin_mapM (fun rule : Rule => (Tier.failsWithin_ofLevel rule.level).bind
      fun _ => failsWithin_ok _ _) _).bind fun _ => failsWithin_ok _ _
  have hcompile (conditions : List Condition) :
      FailsWithin Failure.IsOfData (Expression.compile conditions) := by
    intro failure hfailure
    rw [failsOnlyWith_compile conditions failure hfailure]
    trivial
  exact hfirst.bind fun first =>
    (failsWithin_mapM (fun item : Tier × Rule => (hcompile item.2.conditions).bind
      fun _ => failsWithin_ok _ _) first).bind fun _ =>
        (failsWithin_versionOf first).bind fun _ => failsWithin_ok _ _

theorem isSevere_of_fetchAll {store later : Store} {failure : Failure}
    (hresult : Store.fetchAll store = (.error failure, later)) : failure.IsSevere := by
  have hpersistence (message : String) (details : List (String × Json)) :
      (Failure.service (.persistence message details)).IsSevere :=
    Nat.le_of_ble_eq_true rfl
  rcases Store.fetchAll_error hresult with rfl | hdata | ⟨fault, rfl | rfl⟩
  · exact hpersistence _ _
  · exact hdata.isSevere
  · exact Failure.isSevere_fault fault
  · exact hpersistence _ _

/-! ### Refreshing -/

section Refreshing

variable (hweather : ∀ service turned, weather service turned → Weather service turned)

include hweather

/-- A course of an idle job is idle, whatever the weather. -/
theorem idle_of_course {job : Job Service α} {outcome : Outcome α}
    (hcourse : Course weather job now outcome left) (hjob : job.Respects Idle) :
    Idle now left := by
  apply hcourse.respects idle_refl Idle.trans _ hjob
  intro service turned hturned
  obtain ⟨storeOutage, cacheOutage, rfl⟩ := hweather _ _ hturned
  exact ⟨rfl, rfl, rfl, rfl, ResultCache.drops_refl _⟩

/-- An action of the store leaves everything else as it is. -/
theorem onStore_course {action : Store.Action α} {outcome : Outcome α}
    (hcourse : Course weather (onStore action) now outcome left) :
    ∃ store, store.rows = now.store.rows ∧ action store = (outcome, left.store) ∧
      Apart now left := by
  obtain ⟨turned, hturned, hact⟩ := ask_course hcourse
  obtain ⟨storeOutage, cacheOutage, rfl⟩ := hweather _ _ hturned
  obtain ⟨houtcome, rfl⟩ := Prod.mk.inj hact
  exact ⟨{ now.store with outage := storeOutage }, rfl, Prod.ext houtcome rfl, rfl, rfl, rfl,
    rfl, rfl⟩

/-- A job begins with an action of the store. If the action fails the job has ended, and
otherwise the rest of it follows. -/
theorem onStore_then_course {β : Type} {action : Store.Action α} {rest : α → Job Service β}
    {outcome : Outcome β} (hcourse : Course weather (onStore action >>= rest) now outcome left) :
    ∃ store mid written, store.rows = now.store.rows ∧ action store = (written, mid.store) ∧
      Apart now mid ∧ (match written with
        | .error failure => outcome = .error failure ∧ left = mid
        | .ok value => Course weather (rest value) mid outcome left) := by
  rcases bind_course hcourse with ⟨failure, rfl, hwrite⟩ | ⟨value, mid, hwrite, hrest⟩
  · obtain ⟨store, hrows, hresult, hapart⟩ := onStore_course hweather hwrite
    exact ⟨store, left, .error failure, hrows, hresult, hapart, rfl, rfl⟩
  · obtain ⟨store, hrows, hresult, hapart⟩ := onStore_course hweather hwrite
    exact ⟨store, mid, .ok value, hrows, hresult, hapart, hrest⟩

/-- Taking over the rules of the table puts them into the engine, or fails and leaves
the engine as it was. -/
theorem loadStored_course {outcome : Outcome Unit}
    (hcourse : Course weather loadStored now outcome left) :
    (∃ failure, outcome = .error failure ∧ failure.IsSevere ∧ Quiet now left) ∨
      (outcome = .ok () ∧ InStep left ∧ left.store.rows = now.store.rows ∧
        left.role = now.role ∧ left.config = now.config ∧
        left.cache.isConnected = now.cache.isConnected) := by
  obtain ⟨store, fetched, written, hrows, hresult, hapart, hended⟩ :=
    onStore_then_course hweather hcourse
  have hkept : fetched.store.rows = store.rows := by
    have hrows := Store.keepsRows_fetchAll store
    rw [hresult] at hrows
    exact hrows
  cases written with
  | error failure =>
      obtain ⟨houtcome, rfl⟩ := hended
      exact .inl ⟨failure, houtcome, isSevere_of_fetchAll hresult, hapart, hkept.trans hrows⟩
  | ok rules =>
      have htabled : fetched.store.tabled = .ok (rules.map (·.rule)) :=
        (Store.tabled_congr hkept).trans (Store.tabled_of_fetchAll hresult)
      rcases tryChange_course hended with ⟨rfl, hchanged⟩ | ⟨failure, rfl, hfails, rfl⟩
      · cases hengine : fetched.engine.load (rules.map (·.rule)) with
        | error failure =>
            rw [hengine] at hchanged
            cases hchanged
        | ok loaded =>
            rw [hengine] at hchanged
            cases hchanged
            refine .inr ⟨rfl, ?_, hkept.trans hrows, hapart.role, hapart.config,
              hapart.isConnected⟩
            unfold InStep
            dsimp only
            rw [htabled]
            exact (load_ok hengine).2
      · refine .inl ⟨failure, rfl, ?_, hapart, hkept.trans hrows⟩
        unfold Engine.load at hfails
        cases hbuild : RuleSet.build (rules.map (·.rule)) with
        | error cause =>
            rw [hbuild] at hfails
            cases hfails
            exact (failsWithin_build _ _ hbuild).isSevere
        | ok set =>
            rw [hbuild] at hfails
            cases hfails

/-- A refresh changes no rows. It fails before the engine has the rules of the table,
or leaves it with them; and on a server that answers it drops all decisions then. -/
theorem refresh_course {operation : String} {outcome : Outcome Unit}
    (hcourse : Course weather (refresh operation) now outcome left) :
    (∃ failure, outcome = .error failure ∧ failure.IsSevere ∧ Quiet now left) ∨
      (FailsWithin Failure.IsSevere outcome ∧ InStep left ∧
        left.store.rows = now.store.rows ∧ left.role = now.role ∧ left.config = now.config ∧
        (SparesCache weather → now.cache.isConnected = true → left.cache.IsSwept)) := by
  rcases bind_course hcourse with ⟨failure, rfl, hload⟩ | ⟨_, loaded, hload, hrest⟩
  · rcases loadStored_course hweather hload with hfailed | ⟨hended, -⟩
    · exact .inl hfailed
    · cases hended
  rcases loadStored_course hweather hload with ⟨_, hended, -⟩ | ⟨-, hstep, hrows, hrole, hconfig,
    hconnected⟩
  · cases hended
  right
  let weatherThere : ResultCache → ResultCache → Prop := fun cache turned =>
    ∃ service later, weather service later ∧ service.cache = cache ∧ later.cache = turned
  have hcache {outcome : Outcome Nat} {dropped : Service}
      (hdrop : Course weather (onCache ResultCache.invalidateAll) loaded outcome dropped) :
      Idle loaded dropped ∧ ResultCache.FailsByFault outcome ∧
        (SparesCache weather → loaded.cache.isConnected = true → dropped.cache.IsSwept) := by
    have hidle : Idle loaded dropped :=
      idle_of_course hweather hdrop (idle_onCache ResultCache.respects_invalidateAll)
    have hthere : Course weatherThere ResultCache.invalidateAll loaded.cache outcome
        dropped.cache :=
      onPart_course (fun _ _ => rfl) (fun service turned h => ⟨service, turned, h, rfl, rfl⟩) hdrop
    have hmeans : ∀ cache turned, weatherThere cache turned →
        ResultCache.Weather cache turned := by
      rintro _ _ ⟨service, turned, hturned, rfl, rfl⟩
      obtain ⟨storeOutage, cacheOutage, rfl⟩ := hweather _ _ hturned
      exact ⟨cacheOutage, rfl⟩
    obtain ⟨hfault, hswept⟩ := ResultCache.invalidateAll_course hmeans hthere
    refine ⟨hidle, hfault, fun hspares hconnected => (hswept ?_ hconnected).2⟩
    rintro _ _ ⟨service, turned, hturned, rfl, rfl⟩
    exact hspares _ _ hturned
  rcases bind_course hrest with ⟨failure, rfl, hdrop⟩ | ⟨count, dropped, hdrop, hmeter⟩
  · obtain ⟨hidle, hfault, hswept⟩ := hcache hdrop
    refine ⟨?_, hstep.congr (Store.tabled_congr hidle.rows) (congrArg _ hidle.engine),
      hidle.rows.trans hrows, hidle.role.trans hrole, hidle.config.trans hconfig,
      fun hspares h => hswept hspares (hconnected.trans h)⟩
    obtain ⟨fault, rfl⟩ := hfault failure rfl
    exact failsWithin_error (Failure.isSevere_fault fault)
  · obtain ⟨hidle, -, hswept⟩ := hcache hdrop
    obtain ⟨rfl, hquiet⟩ := meter_course hmeter
    have hstepped : InStep dropped :=
      hstep.congr (Store.tabled_congr hidle.rows) (congrArg _ hidle.engine)
    refine ⟨failsWithin_ok _ _, hquiet.inStep hstepped, hquiet.rows.trans (hidle.rows.trans hrows),
      hquiet.role.trans (hidle.role.trans hrole),
      hquiet.config.trans (hidle.config.trans hconfig), fun hspares h entry hmem => ?_⟩
    rw [hquiet.entries] at hmem
    exact hswept hspares (hconnected.trans h) entry hmem

end Refreshing

/-! ### Handling -/

variable {endpoint : Endpoint} {ruleId : String} {outcome : Outcome Reply}

/-- The job ends at once, with a reply of success or a severe failure. -/
def Settles (rest : Job Service Reply) : Prop :=
  ∃ outcome, rest = .done outcome ∧ (∀ reply, outcome = .ok reply → IsSuccess reply.status) ∧
    FailsWithin Failure.IsSevere outcome

theorem settles_success {status : Nat} {body : Json} (hstatus : IsSuccess status) :
    Settles (return ⟨status, body⟩) := by
  refine ⟨.ok ⟨status, body⟩, rfl, ?_, failsWithin_ok _ _⟩
  rintro _ ⟨⟩
  exact hstatus

theorem settles_reply {value : Outcome α} {status : Nat} {body : α → Json}
    (hvalue : FailsWithin Failure.IsOfData value) (hstatus : IsSuccess status) :
    Settles (Job.done value >>= fun value => return ⟨status, body value⟩) := by
  cases value with
  | ok value => exact settles_success hstatus
  | error failure =>
      exact ⟨.error failure, rfl, nofun, failsWithin_error (hvalue failure rfl).isSevere⟩

theorem failsWithin_ruleJson (stored : StoredRule) :
    FailsWithin Failure.IsOfData (ruleJson stored) := by
  unfold ruleJson
  dsimp only
  split
  · exact failsWithin_error trivial
  · exact failsWithin_ok _ _

/-- A failure before the write is nothing that has happened. -/
theorem revision_of_error {failure : Failure} (hquiet : Quiet now left)
    (houtcome : outcome = .error failure) :
    Revision weather request endpoint ruleId now left outcome :=
  .nothing hquiet (by rw [houtcome]; exact nofun)

/-- A request with a body is refused, or its body is handled. -/
theorem revision_of_body {read : ProblemKind → Json → Reading α}
    {handle : α → Job Service Reply}
    (hcourse : Course weather (withBody read request handle) now outcome left)
    (hvalid : ∀ value, readBody read request = .valid value →
      Course weather (handle value) now outcome left →
        Revision weather request endpoint ruleId now left outcome) :
    Revision weather request endpoint ruleId now left outcome := by
  rcases withBody_course hcourse with ⟨hrefusal, rfl⟩ | ⟨value, hbody, hcourse⟩
  · refine .nothing (quiet_refl _) fun reply hreply hsuccess => ?_
    cases hrefusal with
    | refused hstatus detail =>
        cases hreply
        have hrange := hsuccess.2
        dsimp only at hrange
        omega
    | unsent => cases hreply
  · exact hvalid value hbody hcourse

/-- A request without an actor fails; with one it goes on. -/
theorem revision_of_actor {rest : String → Job Service Reply}
    (hcourse : Course weather (actorOf request >>= rest) now outcome left)
    (hactor : ∀ actor, nonempty? request.actor? = some actor →
      Course weather (rest actor) now outcome left →
        Revision weather request endpoint ruleId now left outcome) :
    Revision weather request endpoint ruleId now left outcome := by
  rcases actorOf_then_course hcourse with ⟨failure, houtcome, rfl⟩ | ⟨actor, hnamed, hcourse⟩
  · exact revision_of_error (quiet_refl _) houtcome
  · exact hactor actor hnamed hcourse

/-- A rule is refused, or it passes the check. -/
theorem checkRule_course {rule : Rule} {rest : Unit → Job Service Reply}
    (hcourse : Course weather (checkRule rule >>= rest) now outcome left) :
    (∃ failure, outcome = .error failure ∧ left = now) ∨
      ∃ issues, rule.check now.config.strictRules = .ok issues ∧
        Course weather (rest ()) now outcome left := by
  have hparts {ended : Outcome Unit} {checked : Service}
      (hcheck : Course weather (checkRule rule) now ended checked) :
      checked = now ∧ ((∃ failure, ended = .error failure) ∨
        ∃ issues, rule.check now.config.strictRules = .ok issues) := by
    rcases bind_course (look_then_course hcheck) with ⟨failure, rfl, hrefused⟩ |
      ⟨issues, passed, hpassed, hdone⟩
    · exact ⟨(done_course hrefused).2, .inl ⟨failure, rfl⟩⟩
    · obtain ⟨hissues, rfl⟩ := done_course hpassed
      exact ⟨(done_course hdone).2, .inr ⟨issues, hissues.symm⟩⟩
  rcases bind_course hcourse with ⟨failure, rfl, hcheck⟩ | ⟨_, checked, hcheck, hrest⟩
  · exact .inl ⟨failure, rfl, (hparts hcheck).1⟩
  · obtain ⟨rfl, ⟨_, hended⟩ | ⟨issues, hissues⟩⟩ := hparts hcheck
    · cases hended
    · exact .inr ⟨issues, hissues, hrest⟩

section Handlers

variable (hweather : ∀ service turned, weather service turned → Weather service turned)

include hweather

/-- Once the write is committed, a refresh and a reply come. -/
theorem revision_of_refresh
    (hrevises : Revises now.config.strictRules request ruleId now.store.rows endpoint
      mid.store.rows)
    (hapart : Apart now mid) {operation : String} {rest : Job Service Reply}
    (hrest : Settles rest)
    (hcourse : Course weather (refresh operation >>= fun _ => rest) mid outcome left) :
    Revision weather request endpoint ruleId now left outcome := by
  obtain ⟨ended, rfl, hreply, hfailure⟩ := hrest
  rcases bind_course hcourse with ⟨failure, rfl, hrefresh⟩ | ⟨_, renewed, hrefresh, hdone⟩
  · rcases refresh_course hweather hrefresh with ⟨_, hended, hsevere, hquiet⟩ |
      ⟨hsevere, hstep, hrows, hrole, hconfig, hswept⟩
    · cases hended
      exact .committed (hquiet.rows ▸ hrevises) (hapart.trans hquiet.toApart) rfl (.inl hsevere)
    · exact .renewed (hrows ▸ hrevises) (hrole.trans hapart.role) (hconfig.trans hapart.config)
        hstep nofun (failsWithin_error (hsevere failure rfl))
        fun hspares h => hswept hspares (hapart.isConnected.trans h)
  · rcases refresh_course hweather hrefresh with ⟨_, hended, -⟩ |
      ⟨-, hstep, hrows, hrole, hconfig, hswept⟩
    · cases hended
    · obtain ⟨rfl, rfl⟩ := done_course hdone
      exact .renewed (hrows ▸ hrevises) (hrole.trans hapart.role) (hconfig.trans hapart.config)
        hstep hreply hfailure fun hspares h => hswept hspares (hapart.isConnected.trans h)

theorem createRule_revises
    (hcourse : Course weather (createRule request) now outcome left) :
    Revision weather request .createRule ruleId now left outcome := by
  refine revision_of_body hcourse fun draft hbody hcourse => ?_
  refine revision_of_actor hcourse fun actor hactor hcourse => ?_
  rcases checkRule_course hcourse with ⟨failure, houtcome, rfl⟩ | ⟨issues, hcheck, hcourse⟩
  · exact revision_of_error (quiet_refl _) houtcome
  obtain ⟨store, mid, written, hrows, hresult, hapart, hended⟩ :=
    onStore_then_course hweather hcourse
  rcases Store.create_cases hresult with ⟨_, rfl, hsame⟩ | ⟨row, hrow, hnew, hmore, -, rfl⟩
  · obtain ⟨houtcome, rfl⟩ := hended
    exact revision_of_error ⟨hapart, hsame.trans hrows⟩ houtcome
  rw [hrows] at hnew hmore
  have hrevises : Revises now.config.strictRules request ruleId now.store.rows .createRule
      mid.store.rows := by
    rw [hmore]
    exact .create hbody hcheck (hactor ▸ hrow) hnew
  cases hrule : row.toRule with
  | error failure =>
      rw [hrule] at hended
      obtain ⟨houtcome, rfl⟩ := hended
      exact .committed hrevises hapart houtcome
        (.inl (Row.failsWithin_toRule row failure hrule).isSevere)
  | ok created =>
      rw [hrule] at hended
      exact revision_of_refresh hweather hrevises hapart
        (settles_reply (failsWithin_ruleJson created) ⟨by decide, by decide⟩) hended

theorem updateRule_revises
    (hcourse : Course weather (updateRule ruleId request) now outcome left) :
    Revision weather request .updateRule ruleId now left outcome := by
  refine revision_of_body hcourse fun change hbody hcourse => ?_
  refine revision_of_actor hcourse fun actor hactor hcourse => ?_
  obtain ⟨store, asked, existing, hrows, hget, hapart, hended⟩ :=
    onStore_then_course hweather hcourse
  have hasked : Quiet now asked := by
    have hkept := Store.keepsRows_get ruleId store
    rw [hget] at hkept
    exact ⟨hapart, hkept.trans hrows⟩
  cases existing with
  | error failure =>
      obtain ⟨houtcome, rfl⟩ := hended
      exact revision_of_error hasked houtcome
  | ok existing? =>
      cases existing? with
      | none =>
          obtain ⟨houtcome, rfl⟩ := done_course hended
          exact revision_of_error hasked houtcome
      | some existing =>
          obtain ⟨row, hfound, hstored⟩ := Store.get_ok hget existing rfl
          rcases checkRule_course hended with ⟨failure, houtcome, rfl⟩ | ⟨issues, hcheck, hcourse⟩
          · exact revision_of_error hasked houtcome
          obtain ⟨store', mid, written, hrows', hresult, hapart', hended⟩ :=
            onStore_then_course hweather hcourse
          rcases Store.update_cases hresult with ⟨_, rfl, hsame⟩ | ⟨_, instant, -, hmore, -, rfl⟩
          · obtain ⟨houtcome, rfl⟩ := hended
            exact revision_of_error (hasked.trans ⟨hapart', hsame.trans hrows'⟩) houtcome
          rw [hrows] at hfound
          rw [hasked.config] at hcheck
          rw [hrows', hasked.rows] at hmore
          have hrevises : Revises now.config.strictRules request ruleId now.store.rows .updateRule
              mid.store.rows := by
            rw [hmore, ← hactor]
            exact .update instant hbody hfound hstored hcheck
          generalize hrule : Row.toRule _ = written at hended
          cases written with
          | error failure =>
              obtain ⟨houtcome, rfl⟩ := hended
              exact .committed hrevises (hapart.trans hapart') houtcome
                (.inl (Row.failsWithin_toRule _ failure hrule).isSevere)
          | ok updated =>
              exact revision_of_refresh hweather hrevises (hapart.trans hapart')
                (settles_reply (failsWithin_ruleJson updated) ⟨by decide, by decide⟩) hended

theorem deleteRule_revises
    (hcourse : Course weather (deleteRule ruleId request) now outcome left) :
    Revision weather request .deleteRule ruleId now left outcome := by
  refine revision_of_actor hcourse fun actor _ hcourse => ?_
  obtain ⟨store, mid, written, hrows, hresult, hapart, hended⟩ :=
    onStore_then_course hweather hcourse
  rcases Store.delete_cases hresult with ⟨_, rfl, hsame⟩ | ⟨hless, rfl⟩
  · obtain ⟨houtcome, rfl⟩ := hended
    exact revision_of_error ⟨hapart, hsame.trans hrows⟩ houtcome
  rw [hrows] at hless hended
  have hrevises : Revises now.config.strictRules request ruleId now.store.rows .deleteRule
      mid.store.rows := by
    rw [hless]
    exact .delete
  by_cases hcount : now.store.rows.countP (·.id == ruleId) = 1
  · rw [if_pos hcount] at hended
    exact revision_of_refresh hweather hrevises hapart
      (settles_success ⟨by decide, by decide⟩) hended
  · rw [if_neg hcount] at hended
    obtain ⟨houtcome, rfl⟩ := hended
    exact .committed hrevises hapart houtcome (.inr ⟨rfl, hcount⟩)

theorem reorderRules_revises
    (hcourse : Course weather (reorderRules request) now outcome left) :
    Revision weather request .reorderRules ruleId now left outcome := by
  refine revision_of_body hcourse fun placements hbody hcourse => ?_
  refine revision_of_actor hcourse fun actor hactor hcourse => ?_
  obtain ⟨store, mid, written, hrows, hresult, hapart, hended⟩ :=
    onStore_then_course hweather hcourse
  rcases Store.reorder_cases hresult with ⟨_, rfl, hsame⟩ | ⟨rfl, hplaces⟩
  · obtain ⟨houtcome, rfl⟩ := hended
    exact revision_of_error ⟨hapart, hsame.trans hrows⟩ houtcome
  · rw [hrows, ← hactor] at hplaces
    exact revision_of_refresh hweather (.reorder hbody hplaces) hapart
      (settles_success ⟨by decide, by decide⟩) hended

theorem seedRules_revises
    (hcourse : Course weather (seedRules request) now outcome left) :
    Revision weather request .seedRules ruleId now left outcome := by
  refine revision_of_actor hcourse fun actor hactor hcourse => ?_
  obtain ⟨store, mid, written, hrows, hresult, hapart, hended⟩ :=
    onStore_then_course hweather hcourse
  rcases Store.seed_cases hresult with ⟨rfl | ⟨_, rfl⟩, hsame⟩ |
    ⟨created, number, seeded, rfl, hsome, hempty, hmore, -, hseeded⟩
  · obtain ⟨rfl, rfl⟩ := done_course hended
    refine .nothing ⟨hapart, hsame.trans hrows⟩ ?_
    rintro _ ⟨⟩ _
    exact ⟨rfl, rfl⟩
  · obtain ⟨houtcome, rfl⟩ := hended
    exact revision_of_error ⟨hapart, hsame.trans hrows⟩ houtcome
  · rw [hrows] at hempty hmore
    rw [← hactor, nonempty?_nonempty?] at hseeded
    have hrefresh : (!created.isEmpty) = true := by
      rw [Bool.not_eq_true', List.isEmpty_eq_false_iff]
      exact hsome
    dsimp only at hended
    rw [if_pos hrefresh] at hended
    exact revision_of_refresh hweather (hmore ▸ .seed number hempty hseeded) hapart
      (settles_reply (failsWithin_mapM failsWithin_ruleJson created) ⟨by decide, by decide⟩)
      hended

/-- A request that changes rules does nothing, commits its change and fails, or brings
the engine into step with the change. -/
theorem handle_revises (hchanges : changesRules endpoint = true)
    (hcourse : Course weather (handle endpoint ruleId request) now outcome left) :
    Revision weather request endpoint ruleId now left outcome := by
  cases endpoint with
  | createRule => exact createRule_revises hweather hcourse
  | updateRule => exact updateRule_revises hweather hcourse
  | deleteRule => exact deleteRule_revises hweather hcourse
  | reorderRules => exact reorderRules_revises hweather hcourse
  | seedRules => exact seedRules_revises hweather hcourse
  | _ => cases hchanges

end Handlers

end Service

end SkillTiers
