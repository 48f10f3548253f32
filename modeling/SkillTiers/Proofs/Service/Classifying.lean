/-
# The course of a request for classification

A request to classify counts takes the engine as it finds it, asks the cache for a
decision under the version of that engine, and, where there is none, classifies by
the engine as it is by then and keeps the decision under the version that it read
first. `answer_follows` says so step by step: nothing else that the request does
changes anything that decides, and an answer of status 200 tells what has been found
or decided on the way.
-/

import SkillTiers.Proofs.Cache.Correct
import SkillTiers.Proofs.Request.Counts
import SkillTiers.Proofs.Service.Answer

namespace SkillTiers

namespace Service

open Job

/-- The body of the request holds these counts. -/
def Asks (request : Request) (whole : WholeCounts) : Prop :=
  readBody WholeCounts.read request = .valid whole

/-- Counts that are asked about have texts. -/
theorem Asks.haveTexts {request : Request} {whole : WholeCounts} (hasks : Asks request whole) :
    whole.toCounts.HaveTexts := by
  obtain ⟨hreadable, hreading⟩ := readBody_eq_valid.mp hasks
  have hread := Reading.under_valid hreading
  unfold hasReadableBody at hreadable
  cases hbody : request.body with
  | none =>
      rw [hbody] at hread
      cases hread
  | some body =>
      rw [hbody] at hread hreadable
      cases hjson : request.announcesJson with
      | false =>
          rw [hjson] at hread
          cases hread
      | true =>
          rw [hjson] at hread hreadable
          cases hallowed : body.allow Json.maxRoom with
          | ok _ => exact WholeCounts.haveTexts_of_read hallowed hread
          | error fault =>
              simp only [Option.all_some, Bool.not_true, Bool.false_or, hallowed] at hreadable
              cases hreadable

/-- A tier has been put under a key, and nothing else has changed that decides. -/
structure Keeps (key : String) (tier : Tier) (service left : Service) : Prop where
  role : left.role = service.role
  config : left.config = service.config
  engine : left.engine = service.engine
  rows : left.store.rows = service.store.rows
  entries : CacheServer.Gains key tier service.cache.server left.cache.server

/-- How far the classification of counts has come. -/
inductive Progress where
  /-- Nothing has been read. -/
  | arrived
  /-- The engine has been read, and its version. -/
  | asked (engine : Engine)
  /-- The cache has given a tier for that version. -/
  | found (engine : Engine) (tier : Tier)
  /-- The cache has given none, and an engine has decided. -/
  | decided (engine decider : Engine) (tier : Tier)

namespace Progress

/-- What work in memory may do. -/
inductive Thinks (request : Request) : Progress → Service → Progress → Service → Prop where
  /-- It changes nothing. -/
  | idle {progress : Progress} {service left : Service} (hidle : Idle service left) :
      Thinks request progress service progress left
  /-- It reads the engine. -/
  | ask {service left : Service} (hidle : Idle service left) :
      Thinks request .arrived service (.asked service.engine) left
  /-- The engine of the moment decides. -/
  | decide {engine : Engine} {whole : WholeCounts} {tier : Tier} {service left : Service}
      (hidle : Idle service left) (hasks : Asks request whole)
      (htier : service.engine.classify whole.toCounts = .ok tier) :
      Thinks request (.asked engine) service (.decided engine service.engine tier) left

/-- What a call may do. -/
inductive Calls (policy : ZeroTotalPolicy) (request : Request) :
    Progress → Service → Progress → Service → Prop where
  /-- It changes nothing. -/
  | idle {progress : Progress} {service left : Service} (hidle : Idle service left) :
      Calls policy request progress service progress left
  /-- It finds a decision under the version that has been read. -/
  | find {engine : Engine} {whole : WholeCounts} {tier : Tier} {entry : CacheEntry}
      {service left : Service} (hidle : Idle service left) (hasks : Asks request whole)
      (hmem : entry ∈ service.cache.server.entries)
      (hkey : entry.key = ResultCache.keyText engine.version policy.name whole.toCounts)
      (hvalue : Tier.ofName? entry.value = some tier) :
      Calls policy request (.asked engine) service (.found engine tier) left
  /-- It keeps the decision under the version that has been read. -/
  | keep {engine decider : Engine} {whole : WholeCounts} {tier : Tier}
      {service left : Service} (hasks : Asks request whole)
      (hkeeps : Keeps (ResultCache.keyText engine.version policy.name whole.toCounts) tier
        service left) :
      Calls policy request (.decided engine decider tier) service
        (.decided engine decider tier) left

/-- The course of a request where the settings are those of a service. -/
def outline (setting : Service) (request : Request) : Outline Service Progress where
  known service := service.role = setting.role ∧ service.config = setting.config ∧
    service.engine.policy = setting.engine.policy
  think := Thinks request
  ask := Calls setting.engine.policy request

/-- Work in memory leaves the engine as it is. -/
theorem Thinks.engine {request : Request} {progress later : Progress} {service left : Service}
    (hmove : Thinks request progress service later left) : left.engine = service.engine := by
  cases hmove with
  | idle hidle => exact hidle.engine
  | ask hidle => exact hidle.engine
  | decide hidle => exact hidle.engine

/-- A call leaves the engine as it is. -/
theorem Calls.engine {policy : ZeroTotalPolicy} {request : Request}
    {progress later : Progress} {service left : Service}
    (hmove : Calls policy request progress service later left) :
    left.engine = service.engine := by
  cases hmove with
  | idle hidle => exact hidle.engine
  | find hidle => exact hidle.engine
  | keep hasks hkeeps => exact hkeeps.engine

/-- An answer tells a tier, the version of an engine and whether it was found. -/
def Tells (body : Json) (tier : Tier) (engine : Engine) (isCached : Bool) : Prop :=
  body.field? "tier" = some (.string tier.name) ∧
    body.field? "rule_set_version" = some (.string engine.version) ∧
    body.field? "cached" = some (.bool isCached)

/-- What an answer of status 200 tells after a course. -/
def Told : Progress → Json → Prop
  | .arrived, _ | .asked _, _ => False
  | .found engine tier, body => Tells body tier engine true
  | .decided engine _ tier, body => Tells body tier engine false

end Progress

open Progress

variable {setting : Service} {request : Request} {whole : WholeCounts} {engine : Engine}

theorem covers_outline : Covers setting (outline setting request) :=
  ⟨fun _ hknown => ⟨hknown.1, hknown.2.1⟩, fun _ _ _ => .idle, fun _ _ _ => .idle⟩

/-- Asking the cache finds a decision under the version, or nothing. -/
theorem get_follows (hasks : Asks request whole) :
    (onCache (ResultCache.get engine.version setting.engine.policy.name whole.toCounts)).Follows
      (outline setting request)
      (fun progress outcome => progress = .asked engine ∧ outcome.toOption.join = none ∨
        ∃ tier, progress = .found engine tier ∧ outcome = .ok (some tier))
      (.asked engine) := by
  rw [ResultCache.get_of_haveTexts hasks.haveTexts]
  intro service _
  refine ⟨.asked engine, .idle (idle_refl service), ?_⟩
  dsimp only [within]
  cases service.cache.isConnected with
  | false => exact .inl ⟨rfl, rfl⟩
  | true =>
      intro service _
      dsimp only [within]
      rcases CacheServer.call_cases (·.lookUp (ResultCache.keyText engine.version
        setting.engine.policy.name whole.toCounts)) service.cache.server with
        ⟨outage, hcall⟩ | ⟨fault, outage, hcall⟩
      · rw [hcall]
        obtain ⟨hvalue, hentries⟩ := CacheServer.lookUp_eq (ResultCache.keyText engine.version
          setting.engine.policy.name whole.toCounts) { service.cache.server with outage }
        have hidle : Idle service { service with cache := { service.cache with
            server := (({ service.cache.server with outage } : CacheServer).lookUp
              (ResultCache.keyText engine.version setting.engine.policy.name
                whole.toCounts)).2 } } := by
          refine ⟨rfl, rfl, rfl, rfl, ?_⟩
          intro entry hmem
          exact hentries ▸ hmem
        cases hfound : (({ service.cache.server with outage } : CacheServer).lookUp
            (ResultCache.keyText engine.version setting.engine.policy.name
              whole.toCounts)).1.bind Tier.ofName? with
        | none =>
            refine ⟨.asked engine, .idle hidle, .inl ⟨rfl, ?_⟩⟩
            exact hfound
        | some tier =>
            obtain ⟨text, htext, htier⟩ := Option.bind_eq_some_iff.mp hfound
            obtain ⟨entry, hmem, hkey, hentry⟩ :=
              CacheServer.exists_entry_of_value? (hvalue.symm.trans htext)
            refine ⟨.found engine tier, .find hidle hasks hmem hkey (hentry ▸ htier),
              .inr ⟨tier, rfl, ?_⟩⟩
            exact congrArg Except.ok hfound
      · rw [hcall]
        refine ⟨.asked engine, .idle ⟨rfl, rfl, rfl, rfl, fun _ hmem => hmem⟩, ?_⟩
        cases fault <;> exact .inl ⟨rfl, rfl⟩

/-- Keeping a decision puts it under the version that was read, or does nothing. -/
theorem set_follows (hasks : Asks request whole) (decider : Engine) (tier : Tier) :
    (onCache (ResultCache.set engine.version setting.engine.policy.name whole.toCounts
      tier none)).Follows (outline setting request)
      (fun progress _ => progress = .decided engine decider tier)
      (.decided engine decider tier) := by
  rw [ResultCache.set_of_haveTexts hasks.haveTexts]
  intro service _
  refine ⟨.decided engine decider tier, .idle (idle_refl service), ?_⟩
  dsimp only [within]
  cases service.cache.isConnected with
  | false => exact rfl
  | true =>
      intro service _
      refine ⟨.decided engine decider tier, .idle (idle_refl service), ?_⟩
      dsimp only [within]
      generalize service.cache.defaultTtl = ttl
      intro service _
      dsimp only [within]
      generalize ResultCache.clampTtl _ = seconds
      rcases CacheServer.call_cases (fun server => ((), server.put
        ⟨ResultCache.keyText engine.version setting.engine.policy.name whole.toCounts, seconds,
          tier.name⟩)) service.cache.server with ⟨outage, hcall⟩ | ⟨fault, outage, hcall⟩
      · rw [hcall]
        refine ⟨.decided engine decider tier, .keep hasks ⟨rfl, rfl, rfl, rfl, ?_⟩, rfl⟩
        intro entry hmem
        rcases CacheServer.mem_put hmem with hold | hnew
        · exact .inl hold
        · exact .inr ⟨congrArg CacheEntry.key hnew, congrArg CacheEntry.value hnew⟩
      · rw [hcall]
        refine ⟨.decided engine decider tier, .idle ⟨rfl, rfl, rfl, rfl, fun _ hmem => hmem⟩, ?_⟩
        cases fault <;> exact rfl

/-- What the decision on counts has come to. -/
def Reached (engine : Engine) : Progress → Outcome (Tier × Bool) → Prop
  | _, .error _ => True
  | progress, .ok (tier, true) => progress = .found engine tier
  | progress, .ok (tier, false) => ∃ decider, progress = .decided engine decider tier

/-- The decision on counts is found, or decided by the engine of the moment. -/
theorem decideTier_follows (hasks : Asks request whole) :
    (decideTier engine.version whole.toCounts).Follows (outline setting request)
      (Reached engine) (.asked engine) := by
  apply follows_look_bind
  intro service hknown
  obtain ⟨-, -, hpolicy⟩ := hknown
  dsimp only [id]
  rw [hpolicy]
  by_cases henabled : service.config.resultCacheEnabled = true
  · refine ⟨.asked engine, .idle (idle_refl service), ?_⟩
    rw [if_pos henabled]
    apply (get_follows hasks).bind
    · intro progress kept? hkept
      apply covers_outline.idle_then (idle_meter _)
      · intro _
        rcases hkept with ⟨rfl, hnone⟩ | ⟨tier, rfl, htier⟩
        · -- Nothing has been found, and the engine is read once more.
          obtain rfl : kept? = none := hnone
          apply follows_look_bind
          intro service _
          cases htier : service.engine.classify whole.toCounts with
          | error failure =>
              exact ⟨.asked engine, .idle (idle_refl service), trivial⟩
          | ok tier =>
              refine ⟨.decided engine service.engine tier,
                .decide (idle_refl service) hasks htier, ?_⟩
              apply (set_follows hasks service.engine tier).bind
              · intro progress _ hdecided
                exact ⟨service.engine, hdecided⟩
              · intro progress failure _
                exact trivial
        · obtain rfl : kept? = some tier := Except.ok.inj htier
          exact rfl
      · intro failure
        exact trivial
    · intro progress failure _
      exact trivial
  · rw [if_neg henabled]
    cases htier : service.engine.classify whole.toCounts with
    | error failure => exact ⟨.asked engine, .idle (idle_refl service), trivial⟩
    | ok tier =>
        exact ⟨.decided engine service.engine tier, .decide (idle_refl service) hasks htier,
          service.engine, rfl⟩

/-- An answer of status 200 tells what has been found or decided. -/
def Answers (progress : Progress) (status : Nat) (body : Json) : Prop :=
  status = 200 → Told progress body

theorem answers_other (progress : Progress) (status : Nat) (body : Json)
    (hstatus : 300 ≤ status) : Answers progress status body := by
  intro hok
  rw [hok] at hstatus
  exact absurd hstatus (by decide)

/-- The classification of counts tells what has been found or decided. -/
theorem classifyCounts_follows :
    (classifyCounts request).Follows (outline setting request) (Replied Answers) .arrived := by
  apply withBody_follows (answers_other _)
  intro whole hasks
  apply follows_look_bind
  intro service _
  refine ⟨.asked service.engine, .ask (idle_refl service), ?_⟩
  dsimp only
  generalize service.engine.metrics whole.toCounts = metrics?
  apply follows_done_bind
  · intro metrics _
    apply (covers_outline.timing (decideTier_follows hasks) fun _ _ => trivial).bind
    · rintro progress ⟨tier, isCached⟩ hreached
      refine covers_outline.idle_then (idle_meter _) (fun _ => ?_) (replied_error _ progress)
      rintro reply hreply -
      cases hreply
      cases isCached with
      | true =>
          obtain rfl : progress = .found service.engine tier := hreached
          exact ⟨rfl, rfl, rfl⟩
      | false =>
          obtain ⟨decider, rfl⟩ := hreached
          exact ⟨rfl, rfl, rfl⟩
    · intro progress failure _
      exact replied_error _ progress failure
  · intro failure _
    exact replied_error _ _ failure

/-- A request to classify counts takes the course of the outline, and an answer of
status 200 tells what has been found or decided on the way. -/
theorem answer_follows {ruleId : String}
    (hcounts : destinationOf setting request = .endpoint .classifyCounts ruleId) :
    (answer request).Follows (outline setting request) (Responded Answers) .arrived := by
  apply covers_outline.answer answers_other
  intro endpoint ruleId' hleads
  rw [hcounts] at hleads
  cases hleads
  exact classifyCounts_follows

/-- A request to classify one subskill that is rated high. -/
def oneHigh : Request where
  method := "POST"
  path := "/classification/classify"
  headers := []
  body := some (.object [("high_count", .ofInt 1), ("medium_count", .ofInt 0),
    ("low_count", .ofInt 0), ("total", .ofInt 1)])

/-- Its counts. -/
def oneHighCounts : WholeCounts :=
  ⟨1, 0, 0, 1⟩

/-- A row with a rule for experts about the share of high ratings. -/
def expertRow (id : String) (percent : Int) : Row :=
  .ofRule id .expert (RuleSet.expertRule id percent) none 0

/-- The tier and the version that an answer of status 200 shows, and whether it was
found. -/
def shown (outcome : Outcome Response) : Option (String × String × Bool) :=
  match outcome with
  | .ok response =>
    if response.status = 200 then
      match response.body.field? "tier", response.body.field? "rule_set_version",
          response.body.field? "cached" with
      | some (.string tier), some (.string version), some (.bool isCached) =>
        some (tier, version, isCached)
      | _, _, _ => none
    else none
  | .error _ => none

/-- What is shown is what the answer tells. -/
theorem tells_of_shown {outcome : Outcome Response} {tier : Tier} {isCached : Bool}
    (hshown : shown outcome = some (tier.name, engine.version, isCached)) :
    ∃ response, outcome = .ok response ∧ response.status = 200 ∧
      Tells response.body tier engine isCached := by
  unfold shown at hshown
  split at hshown
  · rename_i response
    split at hshown
    · rename_i hstatus
      split at hshown
      · rename_i htier hversion hcached
        cases hshown
        exact ⟨response, rfl, hstatus, htier, hversion, hcached⟩
      · cases hshown
    · cases hshown
  · cases hshown

end Service

end SkillTiers
