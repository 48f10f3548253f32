/-
# Rows of the rule table

A row keeps the conditions of its rule as the database gives them: as JSON text,
or as a value that the database has read already. A row that was written
elsewhere need not make sense, and reading it as a rule can fail.
-/

import SkillTiers.Json.Reader
import SkillTiers.Json.Room
import SkillTiers.Json.Writer
import SkillTiers.Rule.Basic
import SkillTiers.Timestamp

namespace SkillTiers

/-- A row of the rule table. -/
structure Row where
  id : String
  level : String
  /-- A string is JSON text. -/
  conditions : Json
  displayOrder : Int
  isActive : Bool
  createdBy : Option String
  updatedBy : Option String
  createdAt : Instant
  updatedAt : Instant

/-- A rule with who wrote it and when. -/
structure StoredRule where
  rule : Rule
  createdBy : Option String
  updatedBy : Option String
  createdAt : Instant
  updatedAt : Instant

/-- What an update sets; what is none stays as it is. -/
structure RuleUpdate where
  level : Option String
  /-- The conditions in their stored shape. -/
  conditions : Option (List Json)
  displayOrder : Option Int
  isActive : Option Bool

namespace RuleUpdate

/-- Refuses a level that does not exist. -/
def checkLevel (update : RuleUpdate) : Outcome Unit :=
  match update.level with
  | some level => do
    let _ ← Tier.ofLevel level
    return ()
  | none => .ok ()

/-- Refuses a level that does not exist and conditions of which no text can be made. -/
def check (update : RuleUpdate) : Outcome Unit := do
  update.checkLevel
  update.conditions.elim (.ok ()) fun conditions => (Json.array conditions).checkText

end RuleUpdate

namespace Row

/-- The conditions as a value. -/
def conditionsValue (row : Row) : Outcome Json :=
  match row.conditions with
  | .string text => .ofReading (Json.parse text)
  | value => .ok value

/-- The rule in a row. -/
def toRule (row : Row) : Outcome StoredRule := do
  let conditions ← row.conditionsValue
  let tier ← Tier.ofLevel row.level
  return {
    rule := {
      id := row.id
      level := tier.name
      conditions := ← Condition.ofStoredList conditions
      displayOrder := row.displayOrder
      isActive := row.isActive }
    createdBy := row.createdBy
    updatedBy := row.updatedBy
    createdAt := row.createdAt
    updatedAt := row.updatedAt }

/-- The row of a new rule. -/
def ofRule (id : String) (tier : Tier) (rule : Rule) (actor : Option String)
    (now : Instant) : Row where
  id := id
  level := tier.name
  conditions := .string rule.storedConditions.text
  displayOrder := rule.displayOrder
  isActive := rule.isActive
  createdBy := actor
  updatedBy := actor
  createdAt := now
  updatedAt := now

/-- The row with the mark of who changed it last and when. -/
def stamped (actor : Option String) (now : Instant) (row : Row) : Row :=
  { row with updatedBy := actor, updatedAt := now }

/-- The row after an update. -/
def updated (update : RuleUpdate) (row : Row) : Row :=
  { row with
    level := update.level.getD row.level
    conditions := update.conditions.elim row.conditions fun conditions =>
      .string (Json.array conditions).text
    displayOrder := update.displayOrder.getD row.displayOrder
    isActive := update.isActive.getD row.isActive }

/-- Whether a row comes no later than another: by level, then by the order shown. -/
def upTo (first second : Row) : Bool :=
  decide (first.level < second.level)
    || (first.level == second.level && decide (first.displayOrder ≤ second.displayOrder))

/-- The active rows in order; rows of one place stay as they stand. -/
def active (rows : List Row) : List Row :=
  sortBy upTo (rows.filter (·.isActive))

/-- The rows with what becomes of the first row with an id. -/
def modify (rows : List Row) (id : String) (change : Row → Row) : List Row :=
  match rows with
  | [] => []
  | row :: rest => if row.id == id then change row :: rest else row :: modify rest id change

/-- The first row with an id. -/
def find? (rows : List Row) (id : String) : Option Row :=
  rows.find? (·.id == id)

end Row

end SkillTiers
