/-
# The rule store

The store is one table of rows in a database. Each call of the database can fail;
a statement that is executed moves the database's clock, and its effect on the
rows comes after that. An action is what the store does in one go: its outcome
and the store it leaves. A transaction that fails leaves the rows as they were,
though not the clock.
-/

import SkillTiers.Outage
import SkillTiers.Store.Row

namespace SkillTiers

/-- The rule table, and the database that holds it. -/
structure Store where
  rows : List Row
  /-- The instant of the last statement. -/
  clock : Instant
  /-- Whether the store has connected to its database. -/
  isConnected : Bool
  /-- The calls that will fail. -/
  outage : Outage
  /-- How many rules have been given an id. -/
  rulesNamed : Nat
  /-- How many seed rules have been given an id. -/
  seedsNamed : Nat

namespace Store

/-- The store of a database with these rows. -/
def ofRows (rows : List Row) (isConnected : Bool) : Store where
  rows := rows
  clock := 0
  isConnected := isConnected
  outage := .never
  rulesNamed := 0
  seedsNamed := 0

/-- What is done on the store in one go. -/
def Action (α : Type) : Type :=
  Store → Outcome α × Store

namespace Action

variable {α β : Type}

/-- The action that ends with an outcome and changes nothing. -/
def ofOutcome (outcome : Outcome α) : Action α := fun store =>
  (outcome, store)

/-- One action and then another, unless the first fails. -/
def bind (action : Action α) (rest : α → Action β) : Action β := fun store =>
  match action store with
  | (.ok value, left) => rest value left
  | (.error cause, left) => (.error cause, left)

instance : Monad Action where
  pure value := ofOutcome (.ok value)
  bind := bind

/-- The action with some of its faults as another failure. -/
def reporting (isExpected : Fault → Bool) (failure : Fault → Failure)
    (action : Action α) : Action α := fun store =>
  match action store with
  | (.error (.fault fault), left) =>
    (.error (if isExpected fault then failure fault else .fault fault), left)
  | result => result

/-- The action with a value in the place of some of its faults. -/
def sparing (isExpected : Fault → Bool) (value : α) (action : Action α) : Action α := fun store =>
  match action store with
  | (.error (.fault fault), left) =>
    (if isExpected fault then .ok value else .error (.fault fault), left)
  | result => result

end Action

variable {α : Type}

/-- The failure that stands for a fault of the database. -/
def failure (message : String) (fault : Fault) : Failure :=
  .service (.persistence message [("error", .string fault.message)])

/-- The failure of a store that has not been started. -/
def notStarted : Failure :=
  .service (.persistence "Rule store not started" [])

/-- An action that needs a database, whose faults are reported under a message. -/
def session (message : String) (action : Action α) : Action α := fun store =>
  if store.isConnected then
    action.reporting Fault.isDatabase (failure message) store
  else
    (.error notStarted, store)

/-- One call of the database. -/
def call (action : Action α) : Action α := fun store =>
  match store.outage.next with
  | (some fault, outage) => (.error (.fault fault), { store with outage })
  | (none, outage) => action { store with outage }

/-- A call that changes nothing. -/
def query (read : List Row → α) : Action α :=
  call fun store => (.ok (read store.rows), store)

/-- A statement: it gets the instant of its execution and the rows. -/
def execute (write : Instant → List Row → Outcome (α × List Row)) : Action α :=
  call fun store =>
    let now := store.clock + 1
    match write now store.rows with
    | .ok (value, rows) => (.ok value, { store with rows, clock := now })
    | .error cause => (.error cause, { store with clock := now })

/-- An action that changes rows only if it ends well. -/
def transaction (action : Action α) : Action α := fun store =>
  match action store with
  | (.error cause, left) => (.error cause, { left with rows := store.rows })
  | result => result

/-- A new id for a rule. -/
def nameRule : Action String := fun store =>
  (.ok ("rule-" ++ toString (store.rulesNamed + 1)),
    { store with rulesNamed := store.rulesNamed + 1 })

/-- The seed rules under new ids. -/
def nameSeeds (seeds : Nat → List Rule) : Action (List Rule) := fun store =>
  let rules := seeds (store.seedsNamed + 1)
  (.ok rules, { store with seedsNamed := store.seedsNamed + rules.length })

/-- The error of an update or a deletion that finds no rule. -/
def notFound (id : String) : Failure :=
  .service (.ruleNotFound id [])

end Store

end SkillTiers
