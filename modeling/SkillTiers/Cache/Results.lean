/-
# The result cache

Decisions are kept on a cache server under a key that says everything they depend
on: the version of the rules, the policy for empty totals and the counts. A change
of the rules therefore never meets an old decision; old decisions are dropped as
well, all at once. A cache that cannot reach its server knows nothing, and says so
without failing, except when it starts.
-/

import SkillTiers.Cache.Server
import SkillTiers.Job
import SkillTiers.Json.Room
import SkillTiers.Json.Shown
import SkillTiers.Rule.Basic

namespace SkillTiers

/-- Refuses counts with an integer of which no text can be made. -/
def Counts.checkText (counts : Counts) : Outcome Unit :=
  counts.named.forM fun (_, value) => (Json.number value).checkText

/-- A cache of decisions. -/
structure ResultCache where
  server : CacheServer
  /-- Whether the cache has a connection to its server. -/
  isConnected : Bool
  /-- The seconds that a decision is kept unless said otherwise. -/
  defaultTtl : Number

namespace ResultCache

variable {α : Type}

/-- The cache before it starts. -/
def initial (defaultTtl : Number) : ResultCache :=
  ⟨.empty, false, defaultTtl⟩

/-- What every key begins with. -/
def keyStart : String :=
  "classification:"

/-- The text of a key of a decision. -/
def keyText (version policy : String) (counts : Counts) : String :=
  keyStart ++ version ++ ":" ++ policy ++ ":" ++ counts.high.text ++ ":"
    ++ counts.medium.text ++ ":" ++ counts.low.text ++ ":" ++ counts.total.text

/-- The key of a decision. There is none where a count has too many digits for a text. -/
def key (version policy : String) (counts : Counts) : Outcome String := do
  counts.checkText
  return keyText version policy counts

/-- The shortest time that a decision is kept. -/
def minTtl : Number :=
  30

/-- The longest time that a decision is kept. -/
def maxTtl : Number :=
  3600

/-- A time within the limits. -/
def clampTtl (ttl : Number) : Number :=
  let capped := if ttl.lt maxTtl then ttl else maxTtl
  if minTtl.lt capped then capped else minTtl

/-- The job of one call of the server. -/
def call (act : CacheServer → α × CacheServer) : Job ResultCache α :=
  .ask fun cache =>
    let (outcome, server) := cache.server.call act
    (outcome, { cache with server })

/-- A job with an answer for the case that the server fails. -/
def sparing (answer : α) (job : Job ResultCache α) : Job ResultCache α := do
  match ← job.attempt with
  | .ok value => return value
  | .error (.fault .redis) => return answer
  | .error cause => .fail cause

/-- A job that needs a connection, with an answer for the case that there is
none or that the server fails. -/
def online (answer : α) (job : Job ResultCache α) : Job ResultCache α := do
  if ← .look (·.isConnected) then sparing answer job else return answer

/-- Connects to the server. -/
def start : Job ResultCache Unit := do
  .change fun cache => { cache with isConnected := true }
  match ← (call fun server => ((), server)).attempt with
  | .ok () => return ()
  | .error (.fault .redis) =>
    .fail (.service (.cache "Failed to start result cache"
      [("error", .string Fault.redis.message)]))
  | .error cause => .fail cause

/-- The tier kept for counts; a text that is no tier counts as nothing. -/
def get (version policy : String) (counts : Counts) : Job ResultCache (Option Tier) :=
  online none do
    let key ← .done (key version policy counts)
    let text? ← call (·.lookUp key)
    return text?.bind Tier.ofName?

/-- Keeps a tier for counts, and says whether that was done. -/
def set (version policy : String) (counts : Counts) (tier : Tier) (ttl : Option Number) :
    Job ResultCache Bool :=
  online false do
    let default ← .look (·.defaultTtl)
    let key ← .done (key version policy counts)
    call fun server => ((), server.put ⟨key, clampTtl (ttl.getD default), tier.name⟩)
    return true

/-- Keeps the tier that a word names. -/
def setNamed (version policy : String) (counts : Counts) (name : String)
    (ttl : Option Number) : Job ResultCache Bool :=
  online false do
    let _ ← .done (key version policy counts)
    set version policy counts (← .done (Tier.ofLevel name)) ttl

/-- Drops every decision, and says how many there were. -/
def invalidateAll : Job ResultCache Nat :=
  online 0 do
    let keys ← call fun server => (server.keysFrom keyStart, server)
    if keys.isEmpty then return 0
    call fun server => ((), server.drop keys)
    return keys.length

/-- The number that a value is; a truth value is zero or one. -/
def numberOf? : Json → Option Number
  | .number value => some value
  | .bool value => some (if value then 1 else 0)
  | _ => none

/-- Why there is no share for two values of which one at least is no number. Two
texts or two lists can be added up, but their sum divides nothing. -/
def shareFailure (hits misses : Json) : Failure :=
  let first := hits.kindName
  let second := misses.kindName
  match hits, misses with
  | .string _, .string _ | .array _, .array _ => .noQuotient first second
  | .string _, _ | .array _, _ => .notJoinable first second
  | _, _ => .noSum first second

/-- The share of look-ups that found their key. A number that the server does not
say is zero. -/
def hitRate (info : List (String × Json)) : Outcome Double :=
  let hits := (Json.lookup info "keyspace_hits").getD (.number 0)
  let misses := (Json.lookup info "keyspace_misses").getD (.number 0)
  match numberOf? hits, numberOf? misses with
  | some hits, some misses => .ofArithmetic do
    let total ← hits.add misses
    if total.isZero then return .zero else hits.div total
  | _, _ => .error (shareFailure hits misses)

/-- What is known about the cache. -/
def stats : Job ResultCache (List (String × Json)) :=
  online [] do
    let info ← call fun server => (server.info, server)
    let keys ← call fun server => (server.keysFrom keyStart, server)
    let rate ← .done (hitRate info)
    let said (name : String) : Json := (Json.lookup info name).getD .null
    return [
      ("redis_version", said "redis_version"),
      ("used_memory", said "used_memory_human"),
      ("keyspace_hits", said "keyspace_hits"),
      ("keyspace_misses", said "keyspace_misses"),
      ("classification_keys", .ofInt keys.length),
      ("hit_rate", .number (.float rate))]

/-- Whether the server answers. -/
def isHealthy : Job ResultCache Bool :=
  online false do
    call fun server => ((), server)
    return true

end ResultCache

end SkillTiers
