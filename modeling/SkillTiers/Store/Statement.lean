/-
# The statement of an update

An update is told values under the names of some fields; a name may also stand for none,
which is passed over like a name that is not there. Out of the values that are told one
statement is put together. Each of them becomes one more parameter of the statement, and
an assignment refers to the parameter by its number. The first two parameters are the id of
the rule and the actor. The database then sets the columns of the row with the id as the
assignments say.
-/

import SkillTiers.Store.Writing

namespace SkillTiers

/-- A field of a rule that an update may be told. -/
inductive RuleField where
  | level
  | conditions
  | displayOrder
  | isActive
deriving DecidableEq, Repr

/-- The fields that an update may be told, in the order in which a statement names them. -/
def RuleField.all : List RuleField :=
  [.level, .conditions, .displayOrder, .isActive]

/-- What an update is told under each name: nothing at all, none, or a value. -/
structure Updates where
  level : Option (Option String)
  conditions : Option (Option (List Condition))
  displayOrder : Option (Option Int)
  isActive : Option (Option Bool)

namespace Statement

/-- A value that is sent to the database, or that a column is set to. -/
inductive Value where
  | null
  | text (value : String)
  | json (text : String)
  | integer (value : Int)
  | truth (value : Bool)
  | instant (value : Instant)

/-- The text, or no value. -/
def Value.ofText? : Option String → Value
  | some content => .text content
  | none => .null

/-- A column that can be set. -/
inductive Column where
  | field (field : RuleField)
  | updatedBy
  | updatedAt

/-- The row with a value in a column, if the value is of the kind for it. -/
def Column.put : Column → Value → Row → Option Row
  | .field .level, .text level, row => some { row with level }
  | .field .conditions, .json text, row => some { row with conditions := .string text }
  | .field .displayOrder, .integer displayOrder, row => some { row with displayOrder }
  | .field .isActive, .truth isActive, row => some { row with isActive }
  | .updatedBy, .text actor, row => some { row with updatedBy := some actor }
  | .updatedBy, .null, row => some { row with updatedBy := none }
  | .updatedAt, .instant now, row => some { row with updatedAt := now }
  | _, _, _ => none

/-- Where the value of an assignment comes from. -/
inductive Source where
  /-- The parameter with this number; the first one has the number one. -/
  | parameter (number : Nat)
  /-- The parameter with this number, a text that is taken as JSON. -/
  | json (number : Nat)
  /-- The instant of the statement. -/
  | now

/-- The parameter with a number. -/
def parameter? (parameters : List Value) : Nat → Option Value
  | 0 => none
  | index + 1 => parameters[index]?

/-- The value that comes from there. -/
def Source.value? (parameters : List Value) (now : Instant) : Source → Option Value
  | .parameter number => parameter? parameters number
  | .json number =>
    match parameter? parameters number with
    | some (.text text) => some (.json text)
    | _ => none
  | .now => some (.instant now)

/-- Where the value of a field comes from, given the number of its parameter. -/
def Source.ofField : RuleField → Nat → Source
  | .conditions, number => .json number
  | _, number => .parameter number

/-- What a statement says of one column. -/
structure Assignment where
  column : Column
  source : Source

/-- The row with the columns set as the assignments say. -/
def assign (parameters : List Value) (now : Instant) (assignments : List Assignment)
    (row : Row) : Option Row :=
  assignments.foldlM (fun row assignment => do
    assignment.column.put (← assignment.source.value? parameters now) row) row

end Statement

/-- A statement that sets columns of the row whose id is its first parameter, and gives
back the row. -/
structure Statement where
  parameters : List Statement.Value
  assignments : List Statement.Assignment

namespace Statement

/-- The statement about the rule with an id that sets nothing yet. -/
def start (id : String) (actor : Option String) : Statement :=
  ⟨[.text id, .ofText? actor], []⟩

/-- The statement with one more parameter, to which it sets a field. -/
def set (statement : Statement) (field : RuleField) (value : Value) : Statement where
  parameters := statement.parameters ++ [value]
  assignments := statement.assignments ++
    [⟨.field field, .ofField field (statement.parameters.length + 1)⟩]

/-- The statement that also marks the row with the actor, its second parameter, and with its
instant. -/
def mark (statement : Statement) : Statement :=
  { statement with assignments :=
      statement.assignments ++ [⟨.updatedBy, .parameter 2⟩, ⟨.updatedAt, .now⟩] }

/-- What the database makes of the rows, and the row that it gives back. -/
def run (statement : Statement) (now : Instant) (rows : List Row) :
    Outcome (Option Row × List Row) :=
  match parameter? statement.parameters 1 with
  | some (.text id) =>
    match Row.find? rows id with
    | some row =>
      match assign statement.parameters now statement.assignments row with
      | some changed => .ok (some changed, Row.modify rows id fun _ => changed)
      | none => .error (.fault .postgres)
    | none => .ok (none, rows)
  | _ => .error (.fault .postgres)

end Statement

namespace Updates

/-- The value that a field is told, as it is sent. The level must exist, and a text must be
made of the conditions. -/
def value? (updates : Updates) : RuleField → Outcome (Option Statement.Value)
  | .level =>
    match updates.level.join with
    | some level => do return some (.text (← Tier.ofLevel level).name)
    | none => .ok none
  | .conditions =>
    match updates.conditions.join with
    | some conditions => do
      let stored := Json.array (Condition.allToStored conditions)
      stored.checkText
      return some (.text stored.text)
    | none => .ok none
  | .displayOrder => .ok (updates.displayOrder.join.map .integer)
  | .isActive => .ok (updates.isActive.join.map .truth)

/-- The statement that also sets a field, if a value is told for it. -/
def tell (updates : Updates) (statement : Statement) (field : RuleField) :
    Outcome Statement := do
  match ← updates.value? field with
  | some value => return statement.set field value
  | none => return statement

/-- The statement of the update of the rule with an id. -/
def statement (updates : Updates) (id : String) (actor : Option String) :
    Outcome Statement := do
  return (← RuleField.all.foldlM updates.tell (.start id actor)).mark

/-- The update with the conditions in their stored shape. -/
def toUpdate (updates : Updates) : RuleUpdate where
  level := updates.level.join
  conditions := updates.conditions.join.map Condition.allToStored
  displayOrder := updates.displayOrder.join
  isActive := updates.isActive.join

end Updates

namespace Store

/-- Updates the rule with an id by the statement of what is told. -/
def amend (id : String) (updates : Updates) (actor : Option String) : Action StoredRule := do
  let statement ← Action.ofOutcome (updates.statement id actor)
  let row? ← session "Failed to update rule" (execute statement.run)
  match row? with
  | some row => Action.ofOutcome row.toRule
  | none => Action.ofOutcome (.error (notFound id))

end Store

end SkillTiers
