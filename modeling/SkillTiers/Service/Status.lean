/-
# Requests about the service

The service says what it is, how its servers are, what it has counted and how its
parts are doing.
-/

import SkillTiers.Json.Outward
import SkillTiers.Service.Basic

namespace SkillTiers

namespace Service

/-- The version of the service. -/
def serviceVersion : String :=
  "1.0.0"

/-- Says what the service is. -/
def welcome : Job Service Reply :=
  return ⟨200, .object [
    ("service", .string "classification"),
    ("message", .string "Skill Matrix - Classification Service"),
    ("version", .string serviceVersion),
    ("capabilities", .array
      [.string "rule_engine", .string "caching", .string "persistence", .string "dashboard"])]⟩

/-- The word for the state of a server. -/
def stateName (isHealthy : Bool) : String :=
  if isHealthy then "ok" else "error"

/-- The states of the servers that the service depends on. -/
def dependencies : Job Service (List (String × Json)) := do
  match ← .look (·.role) with
  | .bare => return []
  | .classification =>
    let cache ← onCache ResultCache.isHealthy
    let store ← onStore Store.isHealthy
    return [("redis", .string (stateName cache)), ("postgres", .string (stateName store))]

/-- Says how the servers are; a check that itself fails is an answer too. -/
def health : Job Service Reply := do
  let name ← .look (·.config.serviceName)
  match ← dependencies.attempt with
  | .ok dependencies =>
    meter (.healthCheck "ok")
    return ⟨200, .object [
      ("service", .string name),
      ("status", .string "ok"),
      ("dependencies", .object dependencies),
      ("version", .string serviceVersion),
      ("commit", .string "unknown")]⟩
  | .error cause =>
    meter (.healthCheck "error")
    return ⟨503, .object [
      ("service", .string name),
      ("status", .string "error"),
      ("error", .string cause.message)]⟩

/-- Says what has been counted. -/
def reportMetrics : Job Service Reply := do
  let metrics ← .look (·.metrics)
  return ⟨200, .array (metrics.lines.map .string)⟩

/-- Says how the engine, the cache and the store are doing. -/
def stats : Job Service Reply := do
  let engine ← .look (·.engine)
  let cache ← onCache ResultCache.stats
  let isConnected ← .look (·.store.isConnected)
  let store ← if isConnected then onStore Store.stats else pure none
  return ⟨200, Json.outward (.object [
    ("engine", engine.stats),
    ("cache", .object cache),
    ("persistence", store.elim (.object []) RuleStats.toJson)])⟩

end Service

end SkillTiers
