/-
# Requests for classification

Counts, ratings of a skill, tiers of a category and a whole dashboard are
classified by the engine. Only decisions on counts go through the result cache,
under the version that the engine had when the request came. The time of each
classification is measured, also of one that fails.
-/

import SkillTiers.Dashboard.Report
import SkillTiers.Service.Rules

namespace SkillTiers

namespace Service

variable {α : Type}

/-- A job whose time is measured. -/
def timing (scope : String) (job : Job Service α) : Job Service α := do
  let outcome ← job.attempt
  meter (.classificationTime scope)
  .done outcome

/-- The tier of counts and whether the cache knew it. -/
def decideTier (version : String) (counts : Counts) : Job Service (Tier × Bool) := do
  let service ← .look id
  let policy := service.engine.policy.name
  if service.config.resultCacheEnabled then
    let kept? ← onCache (ResultCache.get version policy counts)
    meter (.cacheLookup kept?.isSome Metrics.resultCache)
    match kept? with
    | some tier => return (tier, true)
    | none =>
      let engine ← .look (·.engine)
      let tier ← .done (engine.classify counts)
      let _ ← onCache (ResultCache.set version policy counts tier none)
      return (tier, false)
  else
    return (← .done (service.engine.classify counts), false)

/-- The metrics as JSON; an undefined percentage is null. -/
def metricsJson (metrics : SkillMetrics) : Json :=
  .object [
    ("high_count", .number metrics.highCount),
    ("medium_count", .number metrics.mediumCount),
    ("low_count", .number metrics.lowCount),
    ("total_subskills", .number metrics.totalSubskills),
    ("high_percent", .ofFinite metrics.highPercent),
    ("medium_percent", .ofFinite metrics.mediumPercent),
    ("low_percent", .ofFinite metrics.lowPercent)]

/-- Classifies counts. -/
def classifyCounts (request : Request) : Job Service Reply :=
  withBody WholeCounts.read request fun whole => do
    let counts := whole.toCounts
    let engine ← .look (·.engine)
    let metrics ← .done (engine.metrics counts)
    let (tier, isCached) ← timing "counts" (decideTier engine.version counts)
    meter (.classification "counts" tier.name)
    return ⟨200, .object [
      ("tier", .string tier.name),
      ("metrics", metricsJson metrics),
      ("rule_set_version", .string engine.version),
      ("cached", .bool isCached)]⟩

/-- The counts as JSON. -/
def countsJson (counts : Counts) : Json :=
  .object (counts.named.map fun (name, value) => (name, .number value))

/-- Classifies by the engine alone, and answers with the counts it went by. -/
def classifyBy (scope : String) (counts : Counts) (classify : Engine → Outcome Tier) :
    Job Service Reply := do
  let engine ← .look (·.engine)
  let tier ← timing scope (.done (classify engine))
  meter (.classification scope tier.name)
  return ⟨200, .object [
    ("tier", .string tier.name),
    ("input", countsJson counts),
    ("rule_set_version", .string engine.version)]⟩

/-- Classifies a skill. -/
def classifySkill (request : Request) : Job Service Reply :=
  withBody SkillRatings.read request fun skill =>
    let ratings := skill.ratings.map some
    let total := skill.total.map fun total => Number.int total
    classifyBy "skill" (.ofRatings ratings total) (·.classifySkill ratings total)

/-- Classifies a category. -/
def classifyCategory (request : Request) : Job Service Reply :=
  withBody Tier.readSkillTiers request fun tiers =>
    let tiers := tiers.map some
    classifyBy "category" (.ofTiers tiers) (·.classifyCategory tiers)

/-- Computes a dashboard. -/
def dashboard (request : Request) : Job Service Reply :=
  withBody DashboardQuery.read request fun query => do
    let engine ← .look (·.engine)
    let stats ← timing "dashboard" (.done (query.catalog.dashboard engine query.countUnrated))
    return ⟨200, .array (stats.map CategoryStats.toJson)⟩

end Service

end SkillTiers
