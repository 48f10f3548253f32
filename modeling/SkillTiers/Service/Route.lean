/-
# Routes

A route is a pattern of paths, the methods it answers and what it leads to. In a
pattern a rule id stands for any one word. A path that some pattern fits, but with
other methods, is told apart from a path that none fits. A path may end in a line
break. One that no pattern fits may still lead on, if some pattern fits it without
the slashes at its end, or with a slash where it has none.
-/

namespace SkillTiers

/-- What a request can ask for. -/
inductive Endpoint where
  | welcome
  | health
  | metrics
  | documentation
  | listRules
  | createRule
  | updateRule
  | deleteRule
  | reorderRules
  | seedRules
  | validateRules
  | classifyCounts
  | classifySkill
  | classifyCategory
  | dashboard
  | stats
deriving DecidableEq, Repr

/-- A part of a pattern, between two slashes. -/
inductive Segment where
  | word (text : String)
  | ruleId

/-- A pattern of paths with its methods. -/
structure Route where
  segments : List Segment
  methods : List String
  endpoint : Endpoint

/-- Where a path leads. -/
inductive Destination where
  /-- To an endpoint, with the rule id in the path, if any. -/
  | endpoint (endpoint : Endpoint) (ruleId : String)
  /-- To endpoints of other methods alone. -/
  | otherMethod
  /-- To the path with other slashes at its end. -/
  | otherSlashes
  | nowhere
deriving DecidableEq

namespace Segment

/-- The segment as it is written in a pattern. -/
def text : Segment → String
  | .word text => text
  | .ruleId => "\x7brule_id\x7d"

end Segment

namespace Route

/-- The pattern as text. -/
def path (route : Route) : String :=
  String.join (route.segments.map fun segment => "/" ++ segment.text)

/-- Whether a word of a pattern is a part of a path, which may end in a line break
if it is the last one. -/
def isPart (word part : String) (isLast : Bool) : Bool :=
  part == word || (isLast && part == word ++ "\n")

/-- The rule id in a path that the pattern fits, empty where there is none. -/
def ruleIdIn? : List Segment → List String → Option String
  | [], [] => some ""
  | .word text :: segments, part :: parts =>
    if isPart text part parts.isEmpty then ruleIdIn? segments parts else none
  | .ruleId :: segments, part :: parts =>
    if part.isEmpty then none else (ruleIdIn? segments parts).map fun _ => part
  | _, _ => none

/-- The parts of a path, each after a slash, if it begins with one. -/
def partsOf? (path : String) : Option (List String) :=
  match (path.toList.splitOn '/').map String.ofList with
  | "" :: parts => some parts
  | _ => none

/-- The routes of every service. -/
def common : List Route := [
  ⟨[.word "health"], ["GET"], .health⟩,
  ⟨[.word "metrics"], ["GET"], .metrics⟩,
  ⟨[.word "openapi.json"], ["GET", "HEAD"], .documentation⟩]

/-- The routes to pages that document a service. -/
def documentation : List Route := [
  ⟨[.word "docs"], ["GET", "HEAD"], .documentation⟩,
  ⟨[.word "docs", .word "oauth2-redirect"], ["GET", "HEAD"], .documentation⟩,
  ⟨[.word "redoc"], ["GET", "HEAD"], .documentation⟩]

/-- A route below the common word of all classification paths. -/
def below (segments : List Segment) (method : String) (endpoint : Endpoint) : Route :=
  ⟨.word "classification" :: segments, [method], endpoint⟩

/-- The further routes of the classification service. -/
def classification : List Route := [
  ⟨[.word ""], ["GET"], .welcome⟩,
  below [.word "rules"] "GET" .listRules,
  below [.word "rules"] "POST" .createRule,
  below [.word "rules", .ruleId] "PUT" .updateRule,
  below [.word "rules", .ruleId] "DELETE" .deleteRule,
  below [.word "rules", .word "reorder"] "POST" .reorderRules,
  below [.word "rules", .word "defaults"] "POST" .seedRules,
  below [.word "rules", .word "validate"] "POST" .validateRules,
  below [.word "classify"] "POST" .classifyCounts,
  below [.word "skills"] "POST" .classifySkill,
  below [.word "categories"] "POST" .classifyCategory,
  below [.word "dashboard"] "POST" .dashboard,
  below [.word "stats"] "GET" .stats]

/-- The routes that fit a path, whatever their methods, each with the rule id in
the path. -/
def fitting (routes : List Route) (path : String) : List (Route × String) :=
  match partsOf? path with
  | some parts => routes.filterMap fun route =>
    (ruleIdIn? route.segments parts).map fun ruleId => (route, ruleId)
  | none => []

/-- The path without the slashes at its end, or with a slash if it has none. -/
def otherSlashes (path : String) : String :=
  match path.toList.reverse with
  | '/' :: rest => String.ofList (rest.dropWhile (· == '/')).reverse
  | _ => path ++ "/"

/-- Where a path leads that no route fits. -/
def detour (routes : List Route) (path : String) : Destination :=
  if path == "/" || (fitting routes (otherSlashes path)).isEmpty then .nowhere
  else .otherSlashes

/-- Where a method and a path lead: the first route that fits both counts. -/
def destination (routes : List Route) (method path : String) : Destination :=
  match fitting routes path with
  | [] => detour routes path
  | fitting =>
    match fitting.find? fun (route, _) => route.methods.contains method with
    | some (route, ruleId) => .endpoint route.endpoint ruleId
    | none => .otherMethod

end Route

end SkillTiers
