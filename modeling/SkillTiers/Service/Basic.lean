/-
# The service

The service holds an engine, the rule store, the result cache and its metrics. A
bare service has the common routes alone and needs neither store nor cache. What
the service does is put together from jobs: each action of the store is one call,
and so is each call of the cache server.
-/

import SkillTiers.Cache.Results
import SkillTiers.Json.Finite
import SkillTiers.Rule.Engine
import SkillTiers.Service.Config
import SkillTiers.Service.Message
import SkillTiers.Service.Route
import SkillTiers.Store.Reading
import SkillTiers.Store.Writing
import SkillTiers.Telemetry.LogContext
import SkillTiers.Telemetry.Metrics

namespace SkillTiers

/-- A server that a service has launched. -/
inductive Launch where
  /-- For the metrics. -/
  | metrics (port : Int)
  /-- For the requests. -/
  | requests (host : String) (port : Int) (logLevel : String)

/-- What a service is there for. -/
inductive Role where
  /-- For nothing but the common routes. -/
  | bare
  /-- For classification. -/
  | classification
deriving DecidableEq

/-- A service. -/
structure Service where
  role : Role
  config : Config
  engine : Engine
  store : Store
  cache : ResultCache
  metrics : Metrics
  /-- How many requests have been given an id. -/
  requestsNamed : Nat
  /-- The servers launched, in order. -/
  launched : List Launch

namespace Service

variable {α : Type}

/-- The service before it starts, on a database with these rows. -/
def ofConfig (role : Role) (config : Config) (policy : ZeroTotalPolicy)
    (rows : List Row) : Service where
  role := role
  config := config
  engine := .empty policy
  store := .ofRows rows false
  cache := .initial (.int config.resultCacheTtl)
  metrics := .ofService config.serviceName
  requestsNamed := 0
  launched := []

/-- A bare service. -/
def bare (config : Config) (rows : List Row) : Outcome Service := do
  config.checkLogLevel
  return ofConfig .bare config .nan rows

/-- The classification service. -/
def classification (config : Config) (rows : List Row) : Outcome Service := do
  config.checkLogLevel
  return ofConfig .classification config (← ZeroTotalPolicy.ofName config.zeroTotalPolicy) rows

/-- The port of the classification service. -/
def classificationPort : Int :=
  8013

/-- The routes that a service in this role and with these settings answers. -/
def routes (role : Role) (config : Config) : List Route :=
  Route.common ++ (if config.isLocal then Route.documentation else [])
    ++ (match role with
      | .bare => []
      | .classification => Route.classification)

/-- An action of the store. -/
def onStore (action : Store.Action α) : Job Service α :=
  .ask fun service =>
    let (outcome, store) := action service.store
    (outcome, { service with store })

/-- A job of the cache. -/
def onCache (job : Job ResultCache α) : Job Service α :=
  job.onPart (·.cache) fun service cache => { service with cache }

/-- A change of the metrics. -/
def meter (change : Metrics → Metrics) : Job Service Unit :=
  .change fun service => { service with metrics := change service.metrics }

/-- Puts rules in place of the engine's. -/
def loadRules (rules : List Rule) : Job Service Unit :=
  .tryChange fun service => do return { service with engine := ← service.engine.load rules }

/-- Puts the rules of the store in place of the engine's. -/
def loadStored : Job Service Unit := do
  let rules ← onStore Store.fetchAll
  loadRules (rules.map (·.rule))

end Service

end SkillTiers
