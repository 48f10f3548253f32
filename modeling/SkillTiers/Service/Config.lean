/-
# Configuration

A service is configured by variables whose names are a common beginning and the
name of a setting, in letters of either case. A setting without a variable has a
default. The name and the port of the service come from the service itself.
-/

import SkillTiers.Failure
import SkillTiers.Request.Reading
import SkillTiers.Text.UpperCase

namespace SkillTiers

open Reading

/-- The settings of a service. -/
structure Config where
  env : String
  logLevel : String
  cacheUrl : String
  storeUrl : String
  zeroTotalPolicy : String
  strictRules : Bool
  seedDefaultRules : Bool
  seedActor : String
  resultCacheTtl : Int
  resultCacheEnabled : Bool
  metricsPort : Option Int
  serviceName : String
  port : Int
  host : String

namespace Config

/-- What the name of every variable begins with. -/
def variableStart : String :=
  "classification_"

/-- The setting that a variable is for. -/
def settingOf? (variableName : String) : Option String :=
  let lower := variableName.toList.map Char.toLower
  let start := variableStart.toList
  if lower.take start.length == start then some (String.ofList (lower.drop start.length))
  else none

/-- The settings given by variables; of several for one setting the last counts. -/
def settings (assigned : List (String × String)) : List (String × Json) :=
  Json.mergeFields (assigned.filterMap fun (name, value) =>
    (settingOf? name).map fun setting => (setting, .string value))

/-- The settings of the service with this name and port, which are read like the
settings. -/
def read (serviceName port : Json) (assigned : List (String × String)) : Reading Config :=
  let given := settings assigned
  (fun env logLevel cacheUrl storeUrl zeroTotalPolicy strictRules seedDefaultRules
      seedActor resultCacheTtl resultCacheEnabled metricsPort serviceName port host =>
    { env, logLevel, cacheUrl, storeUrl, zeroTotalPolicy, strictRules, seedDefaultRules,
      seedActor, resultCacheTtl, resultCacheEnabled, metricsPort, serviceName, port, host })
    <$> withDefault given "env" "local" text
    <*> withDefault given "log_level" "info" text
    <*> withDefault given "redis_url" "redis://localhost:6379/0" text
    <*> withDefault given "postgres_dsn" "postgres://localhost:5432/skillmatrix" text
    <*> withDefault given "zero_total_policy" "nan" text
    <*> withDefault given "strict_rules" false truth
    <*> withDefault given "seed_default_rules" true truth
    <*> withDefault given "seed_actor_id" "system" text
    <*> withDefault given "result_cache_ttl" 300 (atLeast 1)
    <*> withDefault given "result_cache_enabled" true truth
    <*> optional given "metrics_port" integer
    <*> (text serviceName).under (.key "service_name")
    <*> (integer port).under (.key "port")
    <*> withDefault given "host" "0.0.0.0" text

/-- The settings as JSON. -/
def toJson (config : Config) : Json :=
  .object [
    ("env", .string config.env),
    ("log_level", .string config.logLevel),
    ("redis_url", .string config.cacheUrl),
    ("postgres_dsn", .string config.storeUrl),
    ("zero_total_policy", .string config.zeroTotalPolicy),
    ("strict_rules", .bool config.strictRules),
    ("seed_default_rules", .bool config.seedDefaultRules),
    ("seed_actor_id", .string config.seedActor),
    ("result_cache_ttl", .ofInt config.resultCacheTtl),
    ("result_cache_enabled", .bool config.resultCacheEnabled),
    ("metrics_port", config.metricsPort.elim .null .ofInt),
    ("service_name", .string config.serviceName),
    ("port", .ofInt config.port),
    ("host", .string config.host)]

/-- Whether the service runs on a developer's own machine, where it documents
itself. -/
def isLocal (config : Config) : Bool :=
  config.env == "local"

/-- The words that pass for a log level, in upper case: the levels, and the default
format and the table of styles, which go by such words too. -/
def logLevels : List String :=
  ["CRITICAL", "FATAL", "ERROR", "WARN", "WARNING", "INFO", "DEBUG", "NOTSET",
    "BASIC_FORMAT", "_STYLES"]

/-- Refuses a log level that does not exist, whatever the case of its letters. -/
def checkLogLevel (config : Config) : Outcome Unit :=
  let level := upperCase config.logLevel
  if logLevels.contains level then .ok () else .error (.unknownLogLevel level)

end Config

end SkillTiers
