/-
# What rule changes leave behind

After a rule change that reports success the engine has exactly the rules of the
leading rows of the table, and a cache server that answered has no decision left
(`follows_of_success`). A rule change that reports no success has changed nothing, or
it was committed before something went wrong, and then the engine is as before or has
the rules of the table (`cases_of_failure`). Both hold at every moment of a service, and
in any weather.
-/

import SkillTiers.Proofs.Service.Revision
import SkillTiers.Proofs.Store.Leading

namespace SkillTiers

namespace Service

open Job Renewal

variable {weather : Service → Service → Prop} {now begun handled left : Service}
  {request : Request} {endpoint : Endpoint} {ruleId : String} {response : Response}

/-- A deletion that finds no row deletes none. -/
theorem Revises.unchanged {strict : Bool} {rows rows' : List Row}
    (hrevises : Revises strict request ruleId rows .deleteRule rows')
    (hnone : rows.countP (·.id == ruleId) = 0) : rows' = rows := by
  cases hrevises with
  | delete =>
      rw [List.filter_eq_self]
      intro row hmem
      rw [bne, Bool.not_eq_true', Bool.eq_false_iff]
      exact List.countP_eq_zero.mp hnone row hmem

/-- Quiet steps before and after do not matter. -/
theorem Revision.between {outcome : Outcome Reply} (hbegun : Quiet now begun)
    (hrevision : Revision weather request endpoint ruleId begun handled outcome)
    (hleft : Quiet handled left) : Revision weather request endpoint ruleId now left outcome := by
  have hrows {rows : List Row}
      (hrevises : Revises begun.config.strictRules request ruleId begun.store.rows endpoint rows) :
      Revises now.config.strictRules request ruleId now.store.rows endpoint rows := by
    rw [← hbegun.config, ← hbegun.rows]
    exact hrevises
  cases hrevision with
  | nothing hquiet hnone => exact .nothing ((hbegun.trans hquiet).trans hleft) hnone
  | committed hrevises hapart houtcome hsevere =>
      refine .committed (hleft.rows ▸ hrows hrevises)
        ((hbegun.toApart.trans hapart).trans hleft.toApart) houtcome ?_
      rw [← hbegun.rows]
      exact hsevere
  | renewed hrevises hrole hconfig hstep hreply hfailure hswept =>
      refine .renewed (hleft.rows ▸ hrows hrevises)
        (hleft.role.trans (hrole.trans hbegun.role))
        (hleft.config.trans (hconfig.trans hbegun.config)) (hleft.inStep hstep) hreply hfailure ?_
      intro hspares hconnected entry hmem
      rw [hleft.entries] at hmem
      exact hswept hspares (hbegun.isConnected.trans hconnected) entry hmem

/-- A request that changes rules ends in one of the ways of a change, and its response
reports that. -/
theorem answer_revises (hweather : ∀ service turned, weather service turned →
      Weather service turned)
    (hleads : destinationOf now request = .endpoint endpoint ruleId)
    (hchanges : changesRules endpoint = true)
    (hcourse : Course weather (answer request) now (.ok response) left) :
    ∃ outcome, Revision weather request endpoint ruleId now left outcome ∧
      Reports response outcome := by
  obtain ⟨_, hended, ⟨hnowhere, -, -⟩ |
    ⟨endpoint', ruleId', begun, handled, outcome, hleads', hbegun, hhandle, hleft, hreports⟩⟩ :=
      answer_course hcourse
  · exact absurd hleads (hnowhere endpoint ruleId)
  · cases hended
    cases hleads.symm.trans hleads'
    exact ⟨outcome, (handle_revises hweather hchanges hhandle).between hbegun hleft, hreports⟩

/-- A response of success says what was replied. -/
theorem Reports.success {outcome : Outcome Reply} (hreports : Reports response outcome)
    (hsuccess : IsSuccess response.status) : ∃ reply, outcome = .ok reply ∧
      response.status = reply.status ∧ response.body = reply.body := by
  cases outcome with
  | ok reply =>
      rcases hreports with hsame | hfault
      · exact ⟨reply, rfl, hsame⟩
      · rw [hfault] at hsuccess
        exact absurd hsuccess.2 (by decide)
  | error failure =>
      have hlow : 300 ≤ response.status := hreports ▸ failure.le_status
      exact absurd hsuccess.2 (not_lt.mpr hlow)

/-- A service in step has the rules of the leading rows of its table. -/
theorem InStep.follows {service : Service} (hstep : InStep service) :
    service.engine.ruleSet.Follows service.store.rows := by
  unfold InStep at hstep
  cases htabled : service.store.tabled with
  | error failure =>
      rw [htabled] at hstep
      cases hstep
  | ok rules =>
      rw [htabled] at hstep
      obtain ⟨stored, hstored, rfl⟩ := Store.tabled_ok htabled
      exact RuleSet.follows_of_build hstored hstep

/-- When a request that changes rules reports success, and if it is for seeding not that
nothing was seeded, then the engine has the rule set that is built from the table: for
each level the rule of the leading row and no other, under their version. If a
connected cache server answered whenever it was called, it has no decision left. -/
theorem follows_of_success (hweather : ∀ service turned, weather service turned →
      Weather service turned)
    (hleads : destinationOf now request = .endpoint endpoint ruleId)
    (hchanges : changesRules endpoint = true)
    (hcourse : Course weather (answer request) now (.ok response) left)
    (hsuccess : IsSuccess response.status)
    (hseeded : endpoint = .seedRules → ¬ NoneSeeded response.body) :
    InStep left ∧ left.engine.ruleSet.Follows left.store.rows ∧
      (SparesCache weather → now.cache.isConnected = true → left.cache.IsSwept) := by
  obtain ⟨outcome, hrevision, hreports⟩ := answer_revises hweather hleads hchanges hcourse
  obtain ⟨reply, rfl, hstatus, hbody⟩ := hreports.success hsuccess
  cases hrevision with
  | nothing _ hnone =>
      obtain ⟨hseeds, hnone⟩ := hnone reply rfl (hstatus ▸ hsuccess)
      exact absurd (hbody.symm ▸ hnone) (hseeded hseeds)
  | committed _ _ houtcome _ => cases houtcome
  | renewed _ _ _ hstep _ _ hswept => exact ⟨hstep, hstep.follows, hswept⟩

/-- A request to create a rule for experts. -/
def creation : Request where
  method := "POST"
  path := "/classification/rules"
  headers := [("x-user-id", "admin")]
  body := some (.object [("level", .string "expert"), ("conditions", .array [.object [
    ("metric", .string "high%"), ("operator", .string ">="), ("value", .ofInt 1)]])])

/-- The service when its servers answer again. -/
def cleared (service : Service) : Service :=
  { service with
    store := { service.store with outage := .never }
    cache := { service.cache with
      server := { service.cache.server with outage := .never } } }

/-- A service with a decision on its cache server, while the servers are down. -/
def clouded : Service :=
  let service := plainWith .empty [] [⟨ResultCache.keyStart ++ "old", 300, Tier.expert.name⟩]
  { service with
    store := { service.store with outage := ⟨.postgres, 0, 1⟩ }
    cache := { service.cache with
      server := { service.cache.server with outage := ⟨.redis, 0, 1⟩ } } }

/-- The status of an outcome that is a response. -/
private def statusOf (outcome : Outcome Response) : Option Nat :=
  outcome.toOption.map (·.status)

private theorem response_of_statusOf {outcome : Outcome Response} {status : Nat}
    (hstatus : statusOf outcome = some status) :
    ∃ response, outcome = .ok response ∧ response.status = status := by
  obtain ⟨response, hresponse, hsame⟩ := Option.map_eq_some_iff.mp hstatus
  exact ⟨response, ok_of_toOption hresponse, hsame⟩

/-- Whatever the weather was, the servers answer. -/
def Clearing (service turned : Service) : Prop :=
  turned = cleared service

/-- The servers answer again, a rule is created, the engine has it, and the old decision
is gone. -/
theorem follows_of_success_creation :
    ∃ response left, Course Clearing (answer creation) clouded (.ok response) left ∧
      response.status = 201 ∧ InStep left ∧ left.engine.ruleSet.Follows left.store.rows ∧
      left.cache.IsSwept := by
  have hstatus : statusOf ((answer creation).runTurning cleared clouded).1 = some 201 := by
    decide +kernel
  obtain ⟨response, hresponse, hcreated⟩ := response_of_statusOf hstatus
  have hclears (service : Service) : Clearing service (cleared service) := rfl
  have hcourse := course_runTurning hclears (answer creation) clouded
  rw [hresponse] at hcourse
  have hweather (service turned : Service) (hturned : Clearing service turned) :
      Weather service turned := ⟨.never, .never, hturned⟩
  have hsuccess : IsSuccess response.status := by
    rw [hcreated]
    exact ⟨by decide, by decide⟩
  obtain ⟨hstep, hfollows, hswept⟩ :=
    @follows_of_success _ clouded _ creation .createRule "" response hweather rfl rfl hcourse
      hsuccess nofun
  refine ⟨response, _, hcourse, hcreated, hstep, hfollows, hswept ?_ rfl⟩
  rintro service _ rfl
  rfl

/-- When a request that changes rules reports no success, then rows and engine are as
they were; or the change had been committed, and the engine is as it was or has the rule
set that is built from the table. The status of the response says that this was the
fault of the service, unless several rows with the id have been deleted. -/
theorem cases_of_failure
    (hleads : destinationOf now request = .endpoint endpoint ruleId)
    (hchanges : changesRules endpoint = true)
    (hcourse : Course Weather (answer request) now (.ok response) left)
    (hfailed : ¬ IsSuccess response.status) :
    (left.store.rows = now.store.rows ∧ left.engine = now.engine) ∨
      (Revises now.config.strictRules request ruleId now.store.rows endpoint left.store.rows ∧
        (left.engine = now.engine ∨ InStep left) ∧
        (500 ≤ response.status ∨
          (endpoint = .deleteRule ∧ 1 < now.store.rows.countP (·.id == ruleId)))) := by
  obtain ⟨outcome, hrevision, hreports⟩ :=
    answer_revises (fun _ _ hturned => hturned) hleads hchanges hcourse
  cases hrevision with
  | nothing hquiet _ => exact .inl ⟨hquiet.rows, hquiet.engine⟩
  | @committed failure hrevises hapart houtcome hsevere =>
      rw [houtcome] at hreports
      rcases hsevere with hsevere | ⟨rfl, hcount⟩
      · exact .inr ⟨hrevises, .inl hapart.engine, .inl (hreports ▸ hsevere)⟩
      · by_cases hnone : now.store.rows.countP (·.id == ruleId) = 0
        · exact .inl ⟨hrevises.unchanged hnone, hapart.engine⟩
        · exact .inr ⟨hrevises, .inl hapart.engine, .inr ⟨rfl, by omega⟩⟩
  | renewed hrevises _ _ hstep hreply hfailure _ =>
      refine .inr ⟨hrevises, .inr hstep, .inl ?_⟩
      cases outcome with
      | ok reply =>
          rcases hreports with ⟨hstatus, -⟩ | hfault
          · exact absurd (hstatus ▸ hreply reply rfl) hfailed
          · exact hfault.ge
      | error failure => exact hreports ▸ hfailure failure rfl

/-- A service without rules, of whose database the second call will fail. -/
def databaseFailing : Service :=
  let service := plainWith .empty [] []
  { service with store := { service.store with outage := ⟨.postgres, 1, 1⟩ } }

/-- A service without rules, of whose cache server the first call will fail in an
unexpected way. -/
def cacheFailing : Service :=
  let service := plainWith .empty [] []
  { service with cache := { service.cache with
      server := { service.cache.server with outage := ⟨.runtime, 0, 1⟩ } } }

private theorem course_of_statusOf {service : Service} {request : Request} {status : Nat}
    (hstatus : statusOf ((answer request).run service).1 = some status) :
    ∃ response, Course Weather (answer request) service (.ok response)
      ((answer request).run service).2 ∧ response.status = status := by
  obtain ⟨response, hresponse, hsame⟩ := response_of_statusOf hstatus
  exact ⟨response, hresponse ▸ course_run weather_refl (answer request) service, hsame⟩

private theorem statusOf_databaseFailing :
    statusOf ((answer creation).run databaseFailing).1 = some 503 := by
  decide +kernel

private theorem rows_databaseFailing :
    ((answer creation).run databaseFailing).2.store.rows ≠ databaseFailing.store.rows :=
  fun hrows => absurd (congrArg List.length hrows) (by decide +kernel)

/-- Creating a rule can fail when the rule is in the table already, and also when the
engine has it already. -/
theorem failure_leaves_change :
    (destinationOf databaseFailing creation = .endpoint .createRule "" ∧
      ∃ response left, Course Weather (answer creation) databaseFailing (.ok response) left ∧
        response.status = 503 ∧ left.store.rows ≠ databaseFailing.store.rows) ∧
    (destinationOf cacheFailing creation = .endpoint .createRule "" ∧
      ∃ response left, Course Weather (answer creation) cacheFailing (.ok response) left ∧
        response.status = 500 ∧ left.store.rows ≠ cacheFailing.store.rows ∧
        left.engine.ruleSet ≠ cacheFailing.engine.ruleSet) := by
  constructor
  · obtain ⟨response, hcourse, hstatus⟩ := course_of_statusOf statusOf_databaseFailing
    exact ⟨rfl, response, _, hcourse, hstatus, rows_databaseFailing⟩
  · have hfails : statusOf ((answer creation).run cacheFailing).1 = some 500 := by
      decide +kernel
    obtain ⟨response, hcourse, hstatus⟩ := course_of_statusOf hfails
    refine ⟨rfl, response, _, hcourse, hstatus, fun hrows => ?_, fun hset => ?_⟩
    · exact absurd (congrArg List.length hrows) (by decide +kernel)
    · exact absurd (congrArg (·.chosen.length) hset) (by decide +kernel)

/-- When the database fails after the rule has been inserted, the rule is in the table
and the response has status 503. -/
theorem cases_of_failure_creation :
    ∃ response left, Course Weather (answer creation) databaseFailing (.ok response) left ∧
      response.status = 503 ∧ Revises false creation "" [] .createRule left.store.rows ∧
      (left.engine = databaseFailing.engine ∨ InStep left) := by
  obtain ⟨response, hcourse, hstatus⟩ := course_of_statusOf statusOf_databaseFailing
  have hfailed : ¬ IsSuccess response.status := by
    rw [hstatus]
    exact fun hsuccess => absurd hsuccess.2 (by decide)
  refine ⟨response, _, hcourse, hstatus, ?_⟩
  rcases @cases_of_failure databaseFailing _ creation .createRule "" response rfl rfl hcourse
    hfailed with ⟨hrows, -⟩ | ⟨hrevises, hengine, -⟩
  · exact absurd hrows rows_databaseFailing
  · exact ⟨hrevises, hengine⟩

end Service

end SkillTiers
