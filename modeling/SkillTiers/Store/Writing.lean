/-
# Writing to the rule store

What changes the rule table: a rule is created, updated or deleted, several rules
get new places in one transaction, and an empty table gets the seed rules. Every
change is marked with who made it and when.
-/

import SkillTiers.Rule.Seed
import SkillTiers.Store.Basic

namespace SkillTiers

namespace Store

/-- The rows with one more, refused when its id is taken. -/
def insertRow (row : Row) (rows : List Row) : Outcome (Row × List Row) :=
  if rows.any (·.id == row.id) then .error (.fault .duplicateKey)
  else .ok (row, rows ++ [row])

/-- Inserts a rule, under a new id if it has none. -/
def insert (rule : Rule) (actor : Option String) : Action StoredRule := do
  let id ← if rule.id.isEmpty then nameRule else pure rule.id
  let tier ← Action.ofOutcome rule.tier
  Action.ofOutcome rule.storedConditions.checkText
  let row ← execute fun now rows => insertRow (.ofRule id tier rule actor now) rows
  Action.ofOutcome row.toRule

/-- Creates a rule. -/
def create (rule : Rule) (actor : Option String) : Action StoredRule :=
  session "Failed to create rule" (insert rule actor)

/-- The rows after an update of the rule with an id, and its row then. -/
def updateRows (id : String) (update : RuleUpdate) (actor : Option String)
    (now : Instant) (rows : List Row) : Option Row × List Row :=
  let rows := Row.modify rows id fun row => (row.updated update).stamped actor now
  (Row.find? rows id, rows)

/-- Updates the rule with an id; its conditions are replaced as a whole. -/
def update (id : String) (update : RuleUpdate) (actor : Option String) :
    Action StoredRule := do
  Action.ofOutcome update.check
  let row? ← session "Failed to update rule"
    (execute fun now rows => .ok (updateRows id update actor now rows))
  match row? with
  | some row => Action.ofOutcome row.toRule
  | none => Action.ofOutcome (.error (notFound id))

/-- Deletes the rule with an id. Every row with the id goes; unless that was exactly
one, the rule counts as not found. -/
def delete (id : String) : Action Unit := do
  let deleted ← session "Failed to delete rule" (execute fun _ rows =>
    .ok (rows.countP (·.id == id), rows.filter (·.id != id)))
  Action.ofOutcome (if deleted == 1 then .ok () else .error (notFound id))

/-- Gives a rule its place in the order. -/
def place (id : String) (displayOrder : Int) (actor : Option String) : Action Unit :=
  execute fun now rows =>
    .ok ((), Row.modify rows id fun row => ({ row with displayOrder }).stamped actor now)

/-- Gives rules their places one by one; of several for one rule the last stays. -/
def placeAll (actor : Option String) : List (String × Int) → Action Unit
  | [] => return ()
  | (id, displayOrder) :: rest => do
    place id displayOrder actor
    placeAll actor rest

/-- Gives rules their places in one transaction. -/
def reorder (places : List (String × Int)) (actor : Option String) : Action Unit :=
  session "Failed to reorder rules" (transaction (placeAll actor places))

/-- Inserts rules one by one. -/
def insertAll (actor : Option String) : List Rule → Action (List StoredRule)
  | [] => return []
  | rule :: rest => do
    let stored ← insert rule actor
    return stored :: (← insertAll actor rest)

/-- Whether there is a first row, with an id. -/
def hasRows (rows : List Row) : Bool :=
  rows.head?.any fun row => !row.id.isEmpty

/-- Seeds an empty table, behind a lock on seeding. -/
def seedEmpty (actor : String) : Action (List StoredRule) := do
  query fun _ => ()
  if ← query hasRows then
    return []
  else
    insertAll actor (← nameSeeds Seed.rules)

/-- Seeds an empty table in the name of an actor; without one nothing is done. -/
def seed (actor : Option String) : Action (List StoredRule) :=
  match nonempty? actor with
  | none => return []
  | some actor => session "Failed to seed default rules" (transaction (seedEmpty actor))

end Store

end SkillTiers
