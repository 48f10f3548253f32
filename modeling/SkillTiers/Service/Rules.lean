/-
# Requests about rules

Rules are listed, created, updated, deleted, put in order, seeded and validated.
Every change needs an acting user, and once the store has made it, the engine
takes the rules of the store and the cache drops its decisions.
-/

import SkillTiers.Json.Finite
import SkillTiers.Json.Height
import SkillTiers.Json.Outward
import SkillTiers.Json.Room
import SkillTiers.Json.Writer
import SkillTiers.Request.Bodies
import SkillTiers.Service.Basic

namespace SkillTiers

namespace Service

/-- The answer to a body with problems. It is there only if the values with the
problems are finite. -/
def refuseBody (problems : List Problem) : Outcome Reply :=
  if problems.all fun problem => problem.input.outward.isFinite then
    .ok ⟨422, .object [("detail", .array (problems.map Problem.toJson))]⟩
  else .error .notFinite

/-- The answer to a body that cannot be read. -/
def refuseUnreadable : Reply :=
  ⟨400, .object [("detail", .string "There was an error parsing the body")]⟩

/-- Whether the body of a request can be read: one that is sent as JSON must not be too deep or
hold an integer that is too long. -/
def hasReadableBody (request : Request) : Bool :=
  request.body.all fun body => !request.announcesJson || (body.allow Json.maxRoom).isOk

/-- What the body of a request turns out to be. -/
inductive ReceivedBody (α : Type) where
  /-- It cannot be read. -/
  | unreadable
  | invalid (problems : List Problem)
  | valid (value : α)

/-- What is read from the value that the body of a request is, which is a text unless it is sent
as JSON. -/
def bodyReading {α : Type} (read : ProblemKind → Json → Reading α) (request : Request) :
    Reading α :=
  (match request.body with
    | none => Reading.fail .missing .null
    | some body => read .notObjectInBody
      (if request.announcesJson then body else .string body.text)).under (.key "body")

/-- The body of a request. -/
def readBody {α : Type} (read : ProblemKind → Json → Reading α) (request : Request) :
    ReceivedBody α :=
  if hasReadableBody request then
    match bodyReading read request with
    | .valid value => .valid value
    | .invalid problems => .invalid problems
  else .unreadable

/-- The handling of a request with a body; one that cannot be read, or that has problems, is
refused. -/
def withBody {α : Type} (read : ProblemKind → Json → Reading α) (request : Request)
    (handle : α → Job Service Reply) : Job Service Reply :=
  match readBody read request with
  | .valid value => handle value
  | .invalid problems => .done (refuseBody problems)
  | .unreadable => return refuseUnreadable

section Bodies

variable {α : Type} {read : ProblemKind → Json → Reading α} {request : Request}
  {handle : α → Job Service Reply}

/-- A valid body can be read, and it is what is read from it. -/
theorem readBody_eq_valid {value : α} :
    readBody read request = .valid value ↔
      hasReadableBody request = true ∧ bodyReading read request = .valid value := by
  unfold readBody
  split
  · rename_i hreadable
    rw [and_iff_right hreadable]
    cases bodyReading read request with
    | valid other => simp
    | invalid problems => simp
  · rename_i hunreadable
    exact iff_of_false nofun fun h => hunreadable h.1

theorem withBody_of_valid {value : α} (hbody : readBody read request = .valid value) :
    withBody read request handle = handle value := by
  unfold withBody
  rw [hbody]

/-- How a body is refused: with status 400 or 422, unless the refusal itself cannot be sent. -/
inductive IsRefusal : Outcome Reply → Prop where
  | refused {status : Nat} (hstatus : status = 400 ∨ status = 422) (detail : Json) :
      IsRefusal (.ok ⟨status, .object [("detail", detail)]⟩)
  | unsent : IsRefusal (.error .notFinite)

/-- A body is handled, or it is refused and nothing is done. -/
theorem withBody_cases (read : ProblemKind → Json → Reading α) (request : Request)
    (handle : α → Job Service Reply) :
    (∃ value, readBody read request = .valid value ∧
        withBody read request handle = handle value) ∨
      ∃ refusal, IsRefusal refusal ∧ withBody read request handle = .done refusal := by
  unfold withBody
  cases readBody read request with
  | valid value => exact .inl ⟨value, rfl, rfl⟩
  | unreadable => exact .inr ⟨_, .refused (.inl rfl) _, rfl⟩
  | invalid problems =>
      refine .inr ⟨refuseBody problems, ?_, rfl⟩
      unfold refuseBody
      split
      · exact .refused (.inr rfl) _
      · exact .unsent

end Bodies

/-- Who acts in a request that needs an actor. -/
def actorOf (request : Request) : Job Service String :=
  match nonempty? request.actor? with
  | some actor => return actor
  | none => .fail (.service .notAuthenticated)

theorem actorOf_of_some {request : Request} {actor : String}
    (hactor : nonempty? request.actor? = some actor) : actorOf request = return actor := by
  unfold actorOf
  rw [hactor]

theorem actorOf_of_none {request : Request} (hactor : nonempty? request.actor? = none) :
    actorOf request = .fail (.service .notAuthenticated) := by
  unfold actorOf
  rw [hactor]

/-- Takes over a change of the rules. -/
def refresh (operation : String) : Job Service Unit := do
  loadStored
  let _ ← onCache ResultCache.invalidateAll
  meter (.ruleChange operation)

/-- The greatest height of the conditions of a rule in an answer: that of a list of
objects of values of height 255. -/
def maxHeight : Nat :=
  257

/-- A stored rule as JSON, unless its conditions are too high. -/
def ruleJson (stored : StoredRule) : Outcome Json :=
  let conditions := stored.rule.storedConditions
  if maxHeight < conditions.height then .error .tooHigh
  else .ok (.object [
    ("id", .string stored.rule.id),
    ("level", .string stored.rule.level),
    ("conditions", conditions.onlyFinite),
    ("display_order", .ofInt stored.rule.displayOrder),
    ("is_active", .bool stored.rule.isActive),
    ("created_at", .string stored.createdAt.zuluText),
    ("updated_at", .string stored.updatedAt.zuluText),
    ("created_by", .ofString? stored.createdBy),
    ("updated_by", .ofString? stored.updatedBy)])

/-- Lists the active rules. -/
def listRules : Job Service Reply := do
  let rules ← onStore Store.fetchAll
  let version ← .look (·.engine.version)
  let listed ← .done (rules.mapM ruleJson)
  return ⟨200, .object [
    ("rules", .array listed),
    ("total", .ofInt rules.length),
    ("version", .string version)]⟩

/-- Refuses a rule with issues where the settings are strict. -/
def checkRule (rule : Rule) : Job Service Unit := do
  let strict ← .look (·.config.strictRules)
  let _ ← .done (rule.check strict)

end Service

namespace RuleDraft

/-- The rule of a draft, still without an id. -/
def toRule (draft : RuleDraft) : Rule where
  id := ""
  level := draft.level.name
  conditions := draft.conditions
  displayOrder := draft.displayOrder
  isActive := draft.isActive

end RuleDraft

namespace RuleChange

/-- The rule after a change. -/
def applyTo (change : RuleChange) (rule : Rule) : Rule :=
  { rule with
    level := (change.level.map Tier.name).getD rule.level
    conditions := change.conditions.getD rule.conditions
    displayOrder := (change.displayOrder.map Int.ofNat).getD rule.displayOrder
    isActive := change.isActive.getD rule.isActive }

/-- The change as an update of the store. -/
def toUpdate (change : RuleChange) : RuleUpdate where
  level := change.level.map Tier.name
  conditions := change.conditions.map Condition.allToStored
  displayOrder := change.displayOrder.map Int.ofNat
  isActive := change.isActive

end RuleChange

namespace Service

/-- Creates a rule. -/
def createRule (request : Request) : Job Service Reply :=
  withBody RuleDraft.read request fun draft => do
    let actor ← actorOf request
    checkRule draft.toRule
    let created ← onStore (Store.create draft.toRule (some actor))
    refresh "create"
    return ⟨201, ← .done (ruleJson created)⟩

/-- Updates the rule with an id. -/
def updateRule (id : String) (request : Request) : Job Service Reply :=
  withBody RuleChange.read request fun change => do
    let actor ← actorOf request
    match ← onStore (Store.get id) with
    | none => .fail (Store.notFound id)
    | some existing =>
      checkRule (change.applyTo existing.rule)
      let updated ← onStore (Store.update id change.toUpdate (some actor))
      refresh "update"
      return ⟨200, ← .done (ruleJson updated)⟩

/-- Deletes the rule with an id. -/
def deleteRule (id : String) (request : Request) : Job Service Reply := do
  let _ ← actorOf request
  onStore (Store.delete id)
  refresh "delete"
  return ⟨200, .object [
    ("success", .bool true),
    ("message", .string "Rule deleted successfully")]⟩

/-- Gives rules their places. -/
def reorderRules (request : Request) : Job Service Reply :=
  withBody Placement.readAll request fun placements => do
    let actor ← actorOf request
    let places := placements.map fun placement => (placement.id, (placement.displayOrder : Int))
    onStore (Store.reorder places (some actor))
    refresh "reorder"
    return ⟨200, .object [("success", .bool true), ("count", .ofInt placements.length)]⟩

/-- Seeds an empty store. -/
def seedRules (request : Request) : Job Service Reply := do
  let actor ← actorOf request
  let created ← onStore (Store.seed (some actor))
  if !created.isEmpty then refresh "seed"
  let listed ← .done (created.mapM ruleJson)
  return ⟨200, .object [("seeded", .ofInt created.length), ("rules", .array listed)]⟩

/-- Reports the issues of conditions, and saves nothing. -/
def validateRules (request : Request) : Job Service Reply :=
  withBody Condition.readAll request fun conditions => do
    let issues ← .done (Condition.issues "conditions" conditions)
    return ⟨200, .object [
      ("valid", .bool issues.isEmpty),
      ("issues", .array (issues.map Issue.toJson))]⟩

end Service

end SkillTiers
