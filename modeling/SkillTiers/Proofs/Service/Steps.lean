/-
# What the steps of requests leave alone

No step of any request changes what the service is configured to do. A step is
idle when it leaves engine and rows as they were and keeps no new decision, and passive
when it does not count a change of the rules either; it reloads when it may put a
compiled rule set in place of the engine's, and may write rows. Requests that read are
passive throughout; requests about rules reload; only the classification of counts keeps
decisions, and it changes no rules (`Unrevised`).
-/

import SkillTiers.Proofs.Cache.Drops
import SkillTiers.Proofs.Store.Frame
import SkillTiers.Proofs.Telemetry.RuleChanges
import SkillTiers.Service.Answering
import SkillTiers.Service.Starting

namespace SkillTiers

namespace Service

open Job

variable {α : Type}

/-- Nothing has changed that decides anything; decisions may have been dropped. -/
structure Idle (service left : Service) : Prop where
  role : left.role = service.role
  config : left.config = service.config
  engine : left.engine = service.engine
  rows : left.store.rows = service.store.rows
  entries : ResultCache.Drops service.cache left.cache

/-- Nothing has changed that decides anything, and no change of the rules has been
counted. -/
structure Passive (service left : Service) : Prop extends Idle service left where
  ruleChanges : left.metrics.ruleChanges = service.metrics.ruleChanges

/-- The rules are as they were, in the table and in the engine, and no change of them has
been counted. -/
structure Unrevised (service left : Service) : Prop where
  role : left.role = service.role
  config : left.config = service.config
  engine : left.engine = service.engine
  rows : left.store.rows = service.store.rows
  ruleChanges : left.metrics.ruleChanges = service.metrics.ruleChanges

/-- The rule set is the same or a compiled one, and decisions may have been
dropped. -/
structure Reloads (service left : Service) : Prop where
  role : left.role = service.role
  config : left.config = service.config
  policy : left.engine.policy = service.engine.policy
  ruleSet : left.engine.ruleSet = service.engine.ruleSet ∨
    ∃ rules, RuleSet.build rules = .ok left.engine.ruleSet
  entries : ResultCache.Drops service.cache left.cache

theorem idle_refl (service : Service) : Idle service service :=
  ⟨rfl, rfl, rfl, rfl, ResultCache.drops_refl _⟩

theorem Idle.trans {first second third : Service} (hfirst : Idle first second)
    (hsecond : Idle second third) : Idle first third where
  role := hsecond.role.trans hfirst.role
  config := hsecond.config.trans hfirst.config
  engine := hsecond.engine.trans hfirst.engine
  rows := hsecond.rows.trans hfirst.rows
  entries := fun entry hmem => hfirst.entries entry (hsecond.entries entry hmem)

theorem Idle.reloads {service left : Service} (hidle : Idle service left) :
    Reloads service left where
  role := hidle.role
  config := hidle.config
  policy := congrArg Engine.policy hidle.engine
  ruleSet := .inl (congrArg Engine.ruleSet hidle.engine)
  entries := hidle.entries

theorem Passive.unrevised {service left : Service} (hpassive : Passive service left) :
    Unrevised service left where
  role := hpassive.role
  config := hpassive.config
  engine := hpassive.engine
  rows := hpassive.rows
  ruleChanges := hpassive.ruleChanges

theorem unrevised_refl (service : Service) : Unrevised service service :=
  ⟨rfl, rfl, rfl, rfl, rfl⟩

theorem Unrevised.trans {first second third : Service} (hfirst : Unrevised first second)
    (hsecond : Unrevised second third) : Unrevised first third where
  role := hsecond.role.trans hfirst.role
  config := hsecond.config.trans hfirst.config
  engine := hsecond.engine.trans hfirst.engine
  rows := hsecond.rows.trans hfirst.rows
  ruleChanges := hsecond.ruleChanges.trans hfirst.ruleChanges

theorem reloads_refl (service : Service) : Reloads service service :=
  (idle_refl service).reloads

theorem Reloads.trans {first second third : Service} (hfirst : Reloads first second)
    (hsecond : Reloads second third) : Reloads first third where
  role := hsecond.role.trans hfirst.role
  config := hsecond.config.trans hfirst.config
  policy := hsecond.policy.trans hfirst.policy
  ruleSet := by
    rcases hsecond.ruleSet with hsame | hcompiled
    · rw [hsame]
      exact hfirst.ruleSet
    · exact .inr hcompiled
  entries := fun entry hmem => hfirst.entries entry (hsecond.entries entry hmem)

/-! ### The parts of requests -/

theorem idle_meter (change : Metrics → Metrics) : (meter change).Respects Idle :=
  respects_change fun _ => ⟨rfl, rfl, rfl, rfl, ResultCache.drops_refl _⟩

/-- Passive steps are among those that are idle. -/
theorem idle_of_passive {job : Job Service α} (hjob : job.Respects Passive) :
    job.Respects Idle :=
  hjob.mono fun _ _ => Passive.toIdle

theorem passive_look (read : Service → α) : (Job.look read).Respects Passive :=
  respects_look (fun service => ⟨idle_refl service, rfl⟩) read

/-- Counting anything but a change of the rules. -/
theorem passive_meter {change : Metrics → Metrics} (hchange : Metrics.KeepsRuleChanges change) :
    (meter change).Respects Passive :=
  respects_change fun service =>
    ⟨⟨rfl, rfl, rfl, rfl, ResultCache.drops_refl _⟩, hchange service.metrics⟩

theorem passive_onStore {action : Store.Action α} (haction : Store.KeepsRows action) :
    (onStore action).Respects Passive :=
  respects_ask fun service =>
    ⟨⟨rfl, rfl, rfl, haction service.store, ResultCache.drops_refl _⟩, rfl⟩

theorem passive_onCache {job : Job ResultCache α} (hjob : job.Respects ResultCache.Drops) :
    (onCache job).Respects Passive :=
  hjob.onPart fun _ _ hdrops => ⟨⟨rfl, rfl, rfl, rfl, hdrops⟩, rfl⟩

theorem idle_look (read : Service → α) : (Job.look read).Respects Idle :=
  idle_of_passive (passive_look read)

theorem idle_onStore {action : Store.Action α} (haction : Store.KeepsRows action) :
    (onStore action).Respects Idle :=
  idle_of_passive (passive_onStore haction)

theorem idle_onCache {job : Job ResultCache α} (hjob : job.Respects ResultCache.Drops) :
    (onCache job).Respects Idle :=
  idle_of_passive (passive_onCache hjob)

/-- Measuring the time of a job adds only to the metrics. -/
theorem respects_timing {related : Service → Service → Prop} {scope : String}
    {job : Job Service α} (hmeter : (meter (.classificationTime scope)).Respects related)
    (hjob : job.Respects related) : (timing scope job).Respects related :=
  hjob.attempt.bind fun _ => hmeter.bind fun _ => respects_done _

/-- Reading the body of a request changes nothing. -/
theorem respects_withBody {related : Service → Service → Prop}
    {read : ProblemKind → Json → Reading α} {request : Request}
    {handle : α → Job Service Reply} (hhandle : ∀ value, (handle value).Respects related) :
    (withBody read request handle).Respects related := by
  rcases withBody_cases read request handle with ⟨value, -, hhandled⟩ | ⟨refusal, -, hrefused⟩
  · exact hhandled ▸ hhandle value
  · exact hrefused ▸ respects_done _

theorem idle_actorOf (request : Request) : (actorOf request).Respects Idle := by
  unfold actorOf
  split
  · exact respects_done _
  · exact respects_done _

theorem idle_checkRule (rule : Rule) : (checkRule rule).Respects Idle :=
  (idle_look _).bind fun _ => (respects_done _).bind fun _ => respects_done _

theorem passive_nameRequest (request : Request) : (nameRequest request).Respects Passive := by
  unfold nameRequest
  split
  · exact respects_done _
  · exact fun _ => ⟨⟨⟨rfl, rfl, rfl, rfl, ResultCache.drops_refl _⟩, rfl⟩, trivial⟩

theorem idle_nameRequest (request : Request) : (nameRequest request).Respects Idle :=
  idle_of_passive (passive_nameRequest request)

/-! ### Requests that read -/

theorem passive_health : health.Respects Passive := by
  have hdependencies : dependencies.Respects Passive := by
    refine (passive_look _).bind fun role => ?_
    cases role with
    | bare => exact respects_done _
    | classification =>
        refine (passive_onCache ResultCache.respects_isHealthy).bind fun _ => ?_
        exact (passive_onStore Store.keepsRows_isHealthy).bind fun _ => respects_done _
  have hmeter (status : String) : (meter (.healthCheck status)).Respects Passive :=
    passive_meter (Metrics.keepsRuleChanges_healthCheck status)
  refine (passive_look _).bind fun name => hdependencies.attempt.bind fun outcome => ?_
  cases outcome with
  | ok dependencies => exact (hmeter _).bind fun _ => respects_done _
  | error cause => exact (hmeter _).bind fun _ => respects_done _

theorem passive_stats : stats.Respects Passive := by
  refine (passive_look _).bind fun engine => ?_
  refine (passive_onCache ResultCache.respects_stats).bind fun cache => ?_
  refine (passive_look _).bind fun isConnected => ?_
  dsimp only
  split
  · exact (passive_onStore Store.keepsRows_stats).bind fun _ => respects_done _
  · exact (respects_done _).bind fun _ => respects_done _

theorem passive_listRules : listRules.Respects Passive := by
  refine (passive_onStore Store.keepsRows_fetchAll).bind fun rules => ?_
  exact (passive_look _).bind fun version => (respects_done _).bind fun _ => respects_done _

theorem passive_validateRules (request : Request) : (validateRules request).Respects Passive :=
  respects_withBody fun _ => (respects_done _).bind fun _ => respects_done _

theorem passive_timing (scope : String) {job : Job Service α} (hjob : job.Respects Passive) :
    (timing scope job).Respects Passive :=
  respects_timing (passive_meter (Metrics.keepsRuleChanges_classificationTime scope)) hjob

theorem passive_classifyBy (scope : String) (counts : Counts)
    (classify : Engine → Outcome Tier) : (classifyBy scope counts classify).Respects Passive := by
  refine (passive_look _).bind fun engine => ?_
  refine (passive_timing scope (respects_done _)).bind fun tier => ?_
  exact (passive_meter (Metrics.keepsRuleChanges_classification _ _)).bind fun _ =>
    respects_done _

theorem passive_dashboard (request : Request) : (dashboard request).Respects Passive := by
  refine respects_withBody fun query => (passive_look _).bind fun engine => ?_
  exact (passive_timing _ (respects_done _)).bind fun _ => respects_done _

/-- The endpoints whose requests are idle throughout. -/
def idleEndpoints : List Endpoint :=
  [.welcome, .health, .metrics, .documentation, .listRules, .validateRules, .classifySkill,
    .classifyCategory, .dashboard, .stats]

theorem passive_handle {endpoint : Endpoint} (hendpoint : endpoint ∈ idleEndpoints)
    (ruleId : String) (request : Request) :
    (handle endpoint ruleId request).Respects Passive := by
  cases endpoint with
  | welcome => exact respects_done _
  | health => exact passive_health
  | metrics => exact (passive_look _).bind fun _ => respects_done _
  | documentation => exact respects_done _
  | listRules => exact passive_listRules
  | validateRules => exact passive_validateRules request
  | classifySkill => exact respects_withBody fun _ => passive_classifyBy _ _ _
  | classifyCategory => exact respects_withBody fun _ => passive_classifyBy _ _ _
  | dashboard => exact passive_dashboard request
  | stats => exact passive_stats
  | _ => exact absurd hendpoint (by decide)

theorem idle_handle {endpoint : Endpoint} (hendpoint : endpoint ∈ idleEndpoints)
    (ruleId : String) (request : Request) : (handle endpoint ruleId request).Respects Idle :=
  idle_of_passive (passive_handle hendpoint ruleId request)

/-! ### The classification of counts -/

theorem unrevised_of_passive {job : Job Service α} (hjob : job.Respects Passive) :
    job.Respects Unrevised :=
  hjob.mono fun _ _ => Passive.unrevised

/-- Whatever the cache does, the rules stay as they are. -/
theorem unrevised_onCache (job : Job ResultCache α) : (onCache job).Respects Unrevised :=
  (respects_anything job).onPart fun _ _ _ => ⟨rfl, rfl, rfl, rfl, rfl⟩

theorem unrevised_decideTier (version : String) (counts : Counts) :
    (decideTier version counts).Respects Unrevised := by
  refine (unrevised_of_passive (passive_look _)).bind fun service => ?_
  dsimp only
  split
  · refine (unrevised_onCache _).bind fun kept? => ?_
    refine (unrevised_of_passive (passive_meter
      (Metrics.keepsRuleChanges_cacheLookup _ _))).bind fun _ => ?_
    cases kept? with
    | some tier => exact respects_done _
    | none =>
        refine (unrevised_of_passive (passive_look _)).bind fun engine => ?_
        refine (respects_done _).bind fun tier => ?_
        exact (unrevised_onCache _).bind fun _ => respects_done _
  · exact (respects_done _).bind fun _ => respects_done _

theorem unrevised_classifyCounts (request : Request) :
    (classifyCounts request).Respects Unrevised := by
  refine respects_withBody fun whole => ?_
  refine (unrevised_of_passive (passive_look _)).bind fun engine => ?_
  dsimp only
  generalize engine.metrics whole.toCounts = metrics?
  refine (respects_done metrics?).bind fun metrics => ?_
  refine (respects_timing (unrevised_of_passive (passive_meter
    (Metrics.keepsRuleChanges_classificationTime _))) (unrevised_decideTier _ _)).bind fun _ => ?_
  exact (unrevised_of_passive (passive_meter
    (Metrics.keepsRuleChanges_classification _ _))).bind fun _ => respects_done _

/-! ### Requests about rules -/

/-- Idle steps are among those that reload. -/
theorem reloads_of_idle {job : Job Service α} (hjob : job.Respects Idle) :
    job.Respects Reloads :=
  hjob.mono fun _ _ => Idle.reloads

theorem reloads_onStore (action : Store.Action α) : (onStore action).Respects Reloads :=
  respects_ask fun _ => ⟨rfl, rfl, rfl, .inl rfl, ResultCache.drops_refl _⟩

/-- A load puts a compiled rule set in place of the engine's, or nothing. -/
theorem load_ok {engine loaded : Engine} {rules : List Rule}
    (hload : engine.load rules = .ok loaded) :
    loaded.policy = engine.policy ∧ RuleSet.build rules = .ok loaded.ruleSet := by
  unfold Engine.load at hload
  cases hbuild : RuleSet.build rules with
  | error failure =>
      rw [hbuild] at hload
      cases hload
  | ok set =>
      rw [hbuild] at hload
      cases hload
      exact ⟨rfl, rfl⟩

theorem reloads_loadRules (rules : List Rule) : (loadRules rules).Respects Reloads := by
  intro service
  refine ⟨?_, trivial⟩
  dsimp only
  cases hload : service.engine.load rules with
  | error failure => exact reloads_refl service
  | ok loaded =>
      obtain ⟨hpolicy, hbuild⟩ := load_ok hload
      exact ⟨rfl, rfl, hpolicy, .inr ⟨rules, hbuild⟩, ResultCache.drops_refl _⟩

theorem reloads_loadStored : loadStored.Respects Reloads :=
  (reloads_onStore _).bind fun _ => reloads_loadRules _

theorem reloads_refresh (operation : String) : (refresh operation).Respects Reloads := by
  refine reloads_loadStored.bind fun _ => ?_
  refine (reloads_of_idle (idle_onCache ResultCache.respects_invalidateAll)).bind fun _ => ?_
  exact reloads_of_idle (idle_meter _)

theorem reloads_createRule (request : Request) : (createRule request).Respects Reloads := by
  refine respects_withBody fun draft => ?_
  refine (reloads_of_idle (idle_actorOf request)).bind fun actor => ?_
  refine (reloads_of_idle (idle_checkRule _)).bind fun _ => ?_
  refine (reloads_onStore _).bind fun created => (reloads_refresh _).bind fun _ => ?_
  exact (respects_done _).bind fun _ => respects_done _

theorem reloads_updateRule (id : String) (request : Request) :
    (updateRule id request).Respects Reloads := by
  refine respects_withBody fun change => ?_
  refine (reloads_of_idle (idle_actorOf request)).bind fun actor => ?_
  refine (reloads_onStore _).bind fun existing? => ?_
  cases existing? with
  | none => exact respects_done _
  | some existing =>
      refine (reloads_of_idle (idle_checkRule _)).bind fun _ => ?_
      refine (reloads_onStore _).bind fun updated => (reloads_refresh _).bind fun _ => ?_
      exact (respects_done _).bind fun _ => respects_done _

theorem reloads_deleteRule (id : String) (request : Request) :
    (deleteRule id request).Respects Reloads := by
  refine (reloads_of_idle (idle_actorOf request)).bind fun _ => ?_
  exact (reloads_onStore _).bind fun _ => (reloads_refresh _).bind fun _ => respects_done _

theorem reloads_reorderRules (request : Request) : (reorderRules request).Respects Reloads := by
  refine respects_withBody fun placements => ?_
  refine (reloads_of_idle (idle_actorOf request)).bind fun actor => ?_
  exact (reloads_onStore _).bind fun _ => (reloads_refresh _).bind fun _ => respects_done _

theorem reloads_seedRules (request : Request) : (seedRules request).Respects Reloads := by
  refine (reloads_of_idle (idle_actorOf request)).bind fun actor => ?_
  refine (reloads_onStore _).bind fun created => ?_
  dsimp only
  split
  · exact (reloads_refresh _).bind fun _ => (respects_done _).bind fun _ => respects_done _
  · exact (respects_done _).bind fun _ => respects_done _

/-- Only the classification of counts keeps decisions. -/
theorem reloads_handle {endpoint : Endpoint} (hendpoint : endpoint ≠ .classifyCounts)
    (ruleId : String) (request : Request) :
    (handle endpoint ruleId request).Respects Reloads := by
  cases endpoint with
  | createRule => exact reloads_createRule request
  | updateRule => exact reloads_updateRule ruleId request
  | deleteRule => exact reloads_deleteRule ruleId request
  | reorderRules => exact reloads_reorderRules request
  | seedRules => exact reloads_seedRules request
  | classifyCounts => exact absurd rfl hendpoint
  | _ => exact reloads_of_idle (idle_handle (by decide) ruleId request)

/-! ### Starts -/

theorem idle_launchMetrics (port : Option Int) : (launchMetrics port).Respects Idle := by
  unfold launchMetrics
  split
  · exact respects_change fun _ => ⟨rfl, rfl, rfl, rfl, ResultCache.drops_refl _⟩
  · exact respects_done _

/-- A start respects what its parts respect. -/
theorem respects_start {related : Service → Service → Prop}
    (hlook : ∀ {β : Type} (read : Service → β), (Job.look read).Respects related)
    (hlaunch : ∀ port, (launchMetrics port).Respects related)
    (hconnect : (onStore Store.start).Respects related)
    (hcache : (onCache ResultCache.start).Respects related)
    (hseed : ∀ actor, (onStore (Store.seed actor)).Respects related)
    (hload : loadStored.Respects related) : start.Respects related := by
  have hseeded (config : Config) : (do
      if config.seedDefaultRules then
        let _ ← onStore (Store.seed (some config.seedActor))
      loadStored).Respects related := by
    dsimp only
    split
    · exact (hseed _).bind fun _ => hload
    · exact hload
  refine (hlook _).bind fun role => ?_
  cases role with
  | bare => exact respects_done _
  | classification =>
      refine (hlook _).bind fun config => (hlaunch _).bind fun _ => hconnect.bind fun _ => ?_
      dsimp only
      split
      · exact hcache.bind fun _ => hseeded config
      · exact hseeded config

/-- A start reloads and keeps no decision. -/
theorem reloads_start : start.Respects Reloads := by
  apply respects_start
  · exact fun read => reloads_of_idle (idle_look read)
  · exact fun port => reloads_of_idle (idle_launchMetrics port)
  · exact reloads_onStore _
  · exact reloads_of_idle (idle_onCache ResultCache.respects_start)
  · exact fun actor => reloads_onStore _
  · exact reloads_loadStored

/-! ### A plain service -/

/-- Settings that seed no rules. -/
def plainConfig : Config where
  env := "production"
  logLevel := "info"
  cacheUrl := ""
  storeUrl := ""
  zeroTotalPolicy := "nan"
  strictRules := false
  seedDefaultRules := false
  seedActor := "system"
  resultCacheTtl := 300
  resultCacheEnabled := true
  metricsPort := none
  serviceName := "classification"
  port := 8013
  host := "0.0.0.0"

/-- A service with these settings on a database without rows. -/
def plain : Service :=
  ofConfig .classification plainConfig .nan []

/-- The plain service when it has been started, with a rule set in its engine, rows in
its store and entries on its cache server. -/
def plainWith (set : RuleSet) (rows : List Row) (entries : List CacheEntry) : Service :=
  { plain with
    engine := ⟨plain.engine.policy, set⟩
    store := .ofRows rows true
    cache := { plain.cache with
      isConnected := true
      server := { plain.cache.server with entries } } }

theorem ruleSet_plainWith (set : RuleSet) (rows : List Row) (entries : List CacheEntry) :
    (plainWith set rows entries).engine.ruleSet = set :=
  rfl

/-- A request to delete the rule with an id. -/
def deletion (id : String) : Request where
  method := "DELETE"
  path := "/classification/rules/" ++ id
  headers := [("x-user-id", "admin")]
  body := none

end Service

end SkillTiers
