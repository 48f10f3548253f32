/-
# Metrics of a service

A service counts what happens in it, sample by sample. A name that is no meter of
the service is passed over. The samples are reported as lines, each with its
count, in order.
-/

import SkillTiers.Json.Shown
import SkillTiers.Telemetry.Meter
import SkillTiers.Text.Nonempty

namespace SkillTiers

/-- The counts of a service. -/
structure Metrics where
  service : String
  /-- The samples that have been named, each once, with their counts. -/
  counts : List (Sample × Nat)

namespace Metrics

/-- The metrics of a service in which nothing has happened. -/
def ofService (service : String) : Metrics :=
  ⟨service, []⟩

/-- The meter with a name. -/
def meter? (metrics : Metrics) (name : String) : Option Meter :=
  (Meter.ofService metrics.service).find? (·.name == name)

/-- How often a sample has been counted. -/
def count (metrics : Metrics) (sample : Sample) : Nat :=
  ((metrics.counts.find? (·.1 == sample)).map (·.2)).getD 0

/-- The metrics with more counted of a sample. -/
def add (metrics : Metrics) (sample : Sample) (amount : Nat) : Metrics :=
  { metrics with counts :=
      if metrics.counts.any (·.1 == sample) then
        metrics.counts.map fun entry =>
          if entry.1 == sample then (sample, entry.2 + amount) else entry
      else metrics.counts ++ [(sample, amount)] }

/-- The failure of using a meter of one kind as one of another. -/
def misuse : MeterKind → Failure
  | .counter => .counterTimed
  | _ => .durationCounted

/-- Counts an event, or a measurement, of the meter with a name, as often as
`amount` says. Where that fails, or the meter is of another kind, the sample is
named but not counted. -/
def record (kind : MeterKind) (name : String) (labels : List (String × String))
    (amount : Outcome Nat) (metrics : Metrics) : Outcome Unit × Metrics :=
  match metrics.meter? name with
  | none => (.ok (), metrics)
  | some meter =>
    match meter.sample labels, amount with
    | .error cause, _ => (.error cause, metrics)
    | .ok sample, .ok amount =>
      if meter.kind == kind then (.ok (), metrics.add sample amount)
      else (.error (misuse meter.kind), metrics.add sample 0)
    | .ok sample, .error cause =>
      (.error (if meter.kind == kind then cause else misuse meter.kind), metrics.add sample 0)

/-- The metrics after one event. -/
def counted (name : String) (labels : List (String × String)) (metrics : Metrics) : Metrics :=
  (metrics.record .counter name labels (.ok 1)).2

/-- The metrics after one measured duration. -/
def timed (name : String) (labels : List (String × String)) (metrics : Metrics) : Metrics :=
  (metrics.record .duration name labels (.ok 1)).2

/-- How many measurements a value is, taken for a duration: one that is undefined is
none. -/
def measurements : Json → Outcome Nat
  | .number value => do
    let duration ← Outcome.ofArithmetic value.toDouble
    return if duration.isNaN then 0 else 1
  | .bool _ => .ok 1
  | value => .error (.notDuration value.kindName)

/-- An HTTP request has been answered after this duration. -/
def httpRequestAfter (duration : Json) (method path status : String) (metrics : Metrics) :
    Outcome Unit × Metrics :=
  (metrics.counted "http_requests_total"
    [("method", method), ("endpoint", path), ("status_code", status)]).record .duration
    "http_request_duration_seconds" [("method", method), ("endpoint", path)]
    (measurements duration)

/-- An HTTP request has been answered; how long that took is not kept. -/
def httpRequest (method path status : String) (metrics : Metrics) : Metrics :=
  (metrics.httpRequestAfter (.number 0) method path status).2

/-- The health of the service has been checked. -/
def healthCheck (status : String) : Metrics → Metrics :=
  counted "health_check_total" [("status", status)]

/-- An error has occurred, in this service unless another is named. -/
def error (code : String) (service : Option String) (metrics : Metrics) : Metrics :=
  let service := (nonempty? service).getD metrics.service
  metrics.counted "errors_total" [("error_type", code), ("service", service)]

/-- A tier has been decided. -/
def classification (scope tier : String) : Metrics → Metrics :=
  counted "classifications_total" [("scope", scope), ("tier", tier)]

/-- A classification has taken its time. -/
def classificationTime (scope : String) : Metrics → Metrics :=
  timed "classification_duration_seconds" [("scope", scope)]

/-- The rules have been changed. -/
def ruleChange (operation : String) : Metrics → Metrics :=
  counted "rule_changes_total" [("operation", operation)]

/-- The name under which look-ups of decisions are counted. -/
def resultCache : String :=
  "classification"

/-- A cache has been looked into. -/
def cacheLookup (hit : Bool) (cache : String) : Metrics → Metrics :=
  counted (if hit then "cache_hits_total" else "cache_misses_total") [("cache_type", cache)]

/-- The sample that names the service. -/
def serviceInfo (metrics : Metrics) : Sample :=
  ⟨"service_info_info", [("service", metrics.service), ("version", "1.0.0")]⟩

/-- The lines of the report, in order. -/
def lines (metrics : Metrics) : List String :=
  sortBy (fun a b => decide (a ≤ b)) (((metrics.serviceInfo, 1) :: metrics.counts).map
    fun (sample, count) => sample.line count)

end Metrics

end SkillTiers
