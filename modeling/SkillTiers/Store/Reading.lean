/-
# Reading the rule store

What the store can be asked without being changed: its active rules in order, one
rule, how many rules there are, what they are like on the whole, and whether the
database answers.
-/

import SkillTiers.Store.Basic

namespace SkillTiers

/-- What the rules are like on the whole. -/
structure RuleStats where
  total : Nat
  active : Nat
  /-- How many levels have an active rule. -/
  levels : Nat
  /-- When a rule was changed last. -/
  lastUpdated : Option Instant

namespace RuleStats

/-- The statistics of rows. -/
def ofRows (rows : List Row) : RuleStats where
  total := rows.length
  active := (rows.filter (·.isActive)).length
  levels := ((rows.filter (·.isActive)).map (·.level)).eraseDups.length
  lastUpdated := (rows.map (·.updatedAt)).max?

/-- The statistics as JSON. -/
def toJson (stats : RuleStats) : Json :=
  .object [
    ("total_rules", .ofInt stats.total),
    ("active_rules", .ofInt stats.active),
    ("active_levels", .ofInt stats.levels),
    ("last_updated", .ofString? (stats.lastUpdated.map Instant.offsetText))]

end RuleStats

namespace Store

/-- The active rules, by level and then by the order shown. -/
def fetchAll : Action (List StoredRule) :=
  session "Failed to load rules" do
    let rows ← query Row.active
    Action.ofOutcome (rows.mapM Row.toRule)

/-- The rule with an id, active or not. -/
def get (id : String) : Action (Option StoredRule) :=
  session "Failed to load rule" do
    match ← query (Row.find? · id) with
    | some row => some <$> Action.ofOutcome row.toRule
    | none => return none

/-- The number of rules, active or not. -/
def count : Action Nat :=
  session "Failed to count rules" (query List.length)

/-- The statistics of the rules, none when the database fails. -/
def stats : Action (Option RuleStats) := fun store =>
  if store.isConnected then
    Action.sparing Fault.isDatabase none (some <$> query RuleStats.ofRows) store
  else
    (.error notStarted, store)

/-- Whether a fault is one that the store expects when it connects. -/
def isConnectionFault (fault : Fault) : Bool :=
  fault.isDatabase || fault == .os

/-- Whether the database answers. -/
def isHealthy : Action Bool := fun store =>
  if store.isConnected then
    Action.sparing isConnectionFault false ((fun _ => true) <$> query fun _ => ()) store
  else
    (.ok false, store)

/-- Connects to the database and makes sure of the table and its index. -/
def start : Action Unit :=
  Action.reporting isConnectionFault (failure "Failed to start rule store") do
    call fun store => (.ok (), { store with isConnected := true })
    query fun _ => ()
    query fun _ => ()

end Store

end SkillTiers
