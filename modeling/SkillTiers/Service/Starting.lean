/-
# Starting a service

A start connects the store and the cache, seeds an empty store where the settings
say so, and loads the rules. It stops at the first failure. A bare service has
nothing to start.
-/

import SkillTiers.Service.Basic

namespace SkillTiers

namespace Service

/-- Launches a server. -/
def launch (server : Launch) : Job Service Unit :=
  .change fun service => { service with launched := service.launched ++ [server] }

/-- Launches the server for the metrics, unless its port is missing or zero. -/
def launchMetrics (port : Option Int) : Job Service Unit :=
  match port.filter (· != 0) with
  | some port => launch (.metrics port)
  | none => return ()

/-- Starts the parts of the classification service. -/
def startParts : Job Service Unit := do
  let config ← .look (·.config)
  launchMetrics config.metricsPort
  onStore Store.start
  if config.resultCacheEnabled then onCache ResultCache.start
  if config.seedDefaultRules then
    let _ ← onStore (Store.seed (some config.seedActor))
  loadStored

/-- Starts the service. -/
def start : Job Service Unit := do
  match ← .look (·.role) with
  | .bare => return ()
  | .classification => startParts

/-- Launches the server for the requests. -/
def launchRequests : Job Service Unit := do
  let config ← .look (·.config)
  launch (.requests config.host config.port
    (String.ofList (config.logLevel.toList.map Char.toLower)))

end Service

end SkillTiers
