/-
# The cache server

The server keeps texts under keys, each with a time to live that is recorded but
never runs out. It counts the look-ups that found a key and those that found none,
and it says what it knows about itself. Each request to it is one call, which can
fail.
-/

import SkillTiers.Outage

namespace SkillTiers

/-- A text under a key. -/
structure CacheEntry where
  key : String
  /-- The seconds to live. -/
  ttl : Number
  value : String

/-- A server of texts under keys. -/
structure CacheServer where
  /-- The texts, each key once. -/
  entries : List CacheEntry
  /-- How many look-ups found their key. -/
  hits : Nat
  /-- How many look-ups found no key. -/
  misses : Nat
  /-- What the server says about itself, if it is made to say it. -/
  reported : Option (List (String × Json))
  /-- The calls that will fail. -/
  outage : Outage

namespace CacheServer

/-- The server without texts. -/
def empty : CacheServer :=
  ⟨[], 0, 0, none, .never⟩

/-- The text under a key. -/
def value? (server : CacheServer) (key : String) : Option String :=
  (server.entries.find? (·.key == key)).map (·.value)

/-- The server with a text under a key. -/
def put (entry : CacheEntry) (server : CacheServer) : CacheServer :=
  { server with entries :=
      if server.entries.any (·.key == entry.key) then
        server.entries.map fun other => if other.key == entry.key then entry else other
      else server.entries ++ [entry] }

/-- The server with a text in place of each of its own. -/
def overwrite (value : String) (server : CacheServer) : CacheServer :=
  { server with entries := server.entries.map fun entry => { entry with value } }

/-- The keys that begin with a text. -/
def keysFrom (start : String) (server : CacheServer) : List String :=
  (server.entries.map (·.key)).filter fun key => start.toList.isPrefixOf key.toList

/-- The server without some keys. -/
def drop (keys : List String) (server : CacheServer) : CacheServer :=
  { server with entries := server.entries.filter fun entry => !keys.contains entry.key }

/-- What the server says about itself. -/
def info (server : CacheServer) : List (String × Json) :=
  server.reported.getD [
    ("redis_version", .string "7.0.0"),
    ("used_memory_human", .string "1M"),
    ("keyspace_hits", .ofInt server.hits),
    ("keyspace_misses", .ofInt server.misses)]

/-- One call of the server. -/
def call {α : Type} (act : CacheServer → α × CacheServer) (server : CacheServer) :
    Outcome α × CacheServer :=
  match server.outage.next with
  | (some fault, outage) => (.error (.fault fault), { server with outage })
  | (none, outage) =>
    let (value, left) := act { server with outage }
    (.ok value, left)

/-- A look-up, which is counted. -/
def lookUp (key : String) (server : CacheServer) : Option String × CacheServer :=
  match server.value? key with
  | some value => (some value, { server with hits := server.hits + 1 })
  | none => (none, { server with misses := server.misses + 1 })

end CacheServer

end SkillTiers
