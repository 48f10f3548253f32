/-
# Answering requests

Each request gets an id, is handed to the endpoint its path leads to, and is
counted. A service error becomes the answer it stands for; any other failure, and
an answer with a number that is not finite, is reported in general words only.
Such a response has no id and is not counted among the requests.
-/

import SkillTiers.Json.Finite
import SkillTiers.Service.Classifying
import SkillTiers.Service.Status

namespace SkillTiers

namespace Service

/-- The id of a request: the one it comes with, else a new one. -/
def nameRequest (request : Request) : Job Service String :=
  match request.header? Request.requestIdHeader with
  | some id => return id
  | none => .touch (fun service =>
      let number := service.requestsNamed + 1
      (LogContext.newId number, { service with requestsNamed := number })) fun id => return id

/-- The handling of a request at an endpoint. -/
def handle (endpoint : Endpoint) (ruleId : String) (request : Request) :
    Job Service Reply :=
  match endpoint with
  | .welcome => welcome
  | .health => health
  | .metrics => reportMetrics
  | .documentation => return ⟨200, .null⟩
  | .listRules => listRules
  | .createRule => createRule request
  | .updateRule => updateRule ruleId request
  | .deleteRule => deleteRule ruleId request
  | .reorderRules => reorderRules request
  | .seedRules => seedRules request
  | .validateRules => validateRules request
  | .classifyCounts => classifyCounts request
  | .classifySkill => classifySkill request
  | .classifyCategory => classifyCategory request
  | .dashboard => dashboard request
  | .stats => stats

/-- An answer that only says why there is no other. -/
def detail (status : Nat) (text : String) : Reply :=
  ⟨status, .object [("detail", .string text)]⟩

/-- Refuses an answer with a number that is not finite. -/
def checkFinite (reply : Reply) : Outcome Reply :=
  if reply.body.isFinite then .ok reply else .error .notFinite

/-- The handling of a request. -/
def dispatch (request : Request) : Job Service Reply := do
  let service ← .look id
  match Route.destination (routes service.role service.config) request.method request.path with
  | .endpoint endpoint ruleId =>
    let reply ← handle endpoint ruleId request
    .done (checkFinite reply)
  | .otherMethod => return detail 405 "Method Not Allowed"
  | .otherSlashes => return ⟨307, .string ""⟩
  | .nowhere => return detail 404 "Not Found"

/-- The response to a request that has been answered. An id that was sent goes back
as it was sent. -/
def respond (request : Request) (id : String) (reply : Reply) : Job Service Response := do
  meter (.httpRequest request.method request.addressPath (toString reply.status))
  let returned := (request.sent? Request.requestIdHeader).getD id
  return ⟨reply.status, some returned, reply.body⟩

/-- The code under which a failure that is no service error is counted. -/
def internalError : String :=
  "INTERNAL_ERROR"

/-- The response to a request whose handling went wrong unexpectedly. -/
def unexpected : Response where
  status := 500
  requestId := none
  body := .object [
    ("code", .string internalError),
    ("message", .string "Internal server error"),
    ("details", .object [])]

/-- The response to a request. -/
def answer (request : Request) : Job Service Response := do
  let id ← nameRequest request
  match ← (dispatch request).attempt with
  | .ok reply => respond request id reply
  | .error (.service error) =>
    meter (.error error.code none)
    respond request id ⟨error.status, error.body (some id)⟩
  | .error _ =>
    meter (.error internalError none)
    return unexpected

end Service

end SkillTiers
