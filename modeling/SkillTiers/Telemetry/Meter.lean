/-
# Meters

A meter is a name under which a service counts events or measures durations. The
samples of a meter are told apart by labels, and every sample carries all labels
of its meter. Of a duration only the number of measurements is kept.
-/

import SkillTiers.Failure

namespace SkillTiers

/-- What a meter is for. -/
inductive MeterKind where
  /-- It counts events. -/
  | counter
  /-- It measures durations. -/
  | duration
  /-- It states a fact and has no labels to choose. -/
  | fact
deriving DecidableEq

/-- A meter. -/
structure Meter where
  name : String
  kind : MeterKind
  labels : List String

/-- What is told apart in the counts: a name and the values of labels, in order
of the labels. -/
structure Sample where
  name : String
  labels : List (String × String)
deriving DecidableEq

namespace Meter

/-- The meters of every service. -/
def common : List Meter := [
  ⟨"service_info", .fact, []⟩,
  ⟨"http_requests_total", .counter, ["endpoint", "method", "status_code"]⟩,
  ⟨"http_request_duration_seconds", .duration, ["endpoint", "method"]⟩,
  ⟨"health_check_total", .counter, ["status"]⟩,
  ⟨"errors_total", .counter, ["error_type", "service"]⟩]

/-- The further meters of the classification service. -/
def classification : List Meter := [
  ⟨"classifications_total", .counter, ["scope", "tier"]⟩,
  ⟨"classification_duration_seconds", .duration, ["scope"]⟩,
  ⟨"rule_changes_total", .counter, ["operation"]⟩,
  ⟨"cache_hits_total", .counter, ["cache_type"]⟩,
  ⟨"cache_misses_total", .counter, ["cache_type"]⟩]

/-- The name of the classification service. -/
def classificationService : String :=
  "classification"

/-- The meters of the service with a name. -/
def ofService (service : String) : List Meter :=
  if service == classificationService then common ++ classification else common

/-- The name under which the counts of a meter are listed. -/
def sampleName (meter : Meter) : String :=
  match meter.kind with
  | .counter => meter.name
  | .duration => meter.name ++ "_count"
  | .fact => meter.name ++ "_info"

/-- Labels in order. -/
def sortLabels (labels : List (String × String)) : List (String × String) :=
  sortBy (fun a b => decide (a.1 ≤ b.1)) labels

/-- The sample of a meter with these labels. -/
def sample (meter : Meter) (labels : List (String × String)) : Outcome Sample :=
  let sorted := sortLabels labels
  if meter.labels.isEmpty then .error (.unlabelledMeter meter.name)
  else if labels.isEmpty then .error .missingLabels
  else if sorted.map (·.1) == meter.labels then .ok ⟨meter.sampleName, sorted⟩
  else .error .wrongLabels

end Meter

namespace Sample

/-- The value of a label with its marks escaped. -/
def escape (value : String) : String :=
  String.ofList (value.toList.flatMap fun c =>
    if c == '\\' then ['\\', '\\']
    else if c == '\n' then ['\\', 'n']
    else if c == '"' then ['\\', '"']
    else [c])

/-- The line for a sample with its count. -/
def line (sample : Sample) (count : Nat) : String :=
  let labels := sample.labels.map fun (label, value) =>
    label ++ "=\"" ++ escape value ++ "\""
  sample.name ++ "\x7b" ++ String.intercalate "," labels ++ "\x7d " ++ toString count ++ ".0"

end Sample

end SkillTiers
