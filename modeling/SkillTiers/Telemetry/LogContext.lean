/-
# The context of log events

While a request is handled, log events carry its id and who acts in it. A request
without an id gets a new one. Either may be any value; one that counts as nothing
is left out of the events. The name of a logger is the name of its service, a
point and the name of a part; events of such a logger carry the service too.
-/

import SkillTiers.Failure
import SkillTiers.Json.Shown

namespace SkillTiers

/-- What log events are given. -/
structure LogContext where
  requestId : Json
  actor : Json
  /-- How many requests have been given an id. -/
  requestsNamed : Nat

namespace LogContext

/-- The id that a request without one gets, from its number. -/
def newId (number : Nat) : String :=
  "req-" ++ toString number

/-- Before the first request. -/
def initial : LogContext :=
  ⟨.null, .null, 0⟩

/-- The context with the id of a request, and that id. -/
def setRequestId (given : Json) (context : LogContext) : Json × LogContext :=
  if given.isNull then
    let number := context.requestsNamed + 1
    let id := Json.string (newId number)
    (id, { context with requestId := id, requestsNamed := number })
  else (given, { context with requestId := given })

/-- The context with an actor; without one it stays as it is. -/
def setActor (actor : Json) (context : LogContext) : LogContext :=
  if actor.isNothing then context else { context with actor }

/-- The context without a request. -/
def clear (context : LogContext) : LogContext :=
  { context with requestId := .null, actor := .null }

/-- The fields with one more, unless its value counts as nothing. -/
def withField (key : String) (value : Json) (event : List (String × Json)) :
    List (String × Json) :=
  if value.isNothing then event else Json.setField event key value

/-- The event with the id of the request and its actor. -/
def correlate (context : LogContext) (event : List (String × Json)) : List (String × Json) :=
  withField "actor_id" context.actor (withField "request_id" context.requestId event)

/-- The mark between a service and its part in the name of a logger. -/
def partMark : Char :=
  '.'

/-- Whether an item of a list is the mark. -/
def isPartMark (item : Json) : Bool :=
  item.string? == some (String.singleton partMark)

/-- Whether the mark occurs in the name of a logger, which may be any value with
parts. -/
def hasPartMark : Json → Outcome Bool
  | .string name => .ok (name.toList.contains partMark)
  | .array items => .ok (items.any isPartMark)
  | .object fields => .ok (fields.any fun field => isPartMark (.string field.1))
  | value => .error (.notSearchable value.kindName)

/-- The service in the name of a logger, if the name has the mark. -/
def serviceOf? (logger : Json) : Outcome (Option String) := do
  if ← hasPartMark logger then
    match logger with
    | .string name => return some (String.ofList (name.toList.takeWhile (· != partMark)))
    | value => .error (.notText value.kindName)
  else return none

/-- The event with the service of its logger. -/
def addService (event : List (String × Json)) : Outcome (List (String × Json)) := do
  match ← serviceOf? ((Json.lookup event "logger").getD (.string "")) with
  | some service => return Json.setField event "service" (.string service)
  | none => return event

end LogContext

end SkillTiers
