/-
# The cache does not show

A history is what happens to a service from when it is made: starts, loads of rules
past the store, and requests, one after another, while servers go down and come back
as they like. Old decisions may stay on the cache server for as long as they like,
since dropping them can fail; but each of them is correct for every rule set of the
history, and so an answer tells the tier that the engine gives, from the cache or
not (`answer_tells_engine`).
-/

import SkillTiers.Proofs.Job.Course
import SkillTiers.Proofs.Service.Decision

namespace SkillTiers

namespace Service

open Job Progress

/-- Servers go down and come back; nothing else changes. -/
def Weather (service turned : Service) : Prop :=
  ∃ storeOutage cacheOutage : Outage, turned = { service with
    store := { service.store with outage := storeOutage }
    cache := { service.cache with
      server := { service.cache.server with outage := cacheOutage } } }

/-- What can happen to a service. -/
inductive Event where
  | start
  /-- Rules are put into the engine past the store. -/
  | load (rules : List Rule)
  | request (request : Request)

/-- An event in any weather, and the service that it leaves. -/
inductive Happens (service left : Service) : Event → Prop where
  | start {outcome : Outcome Unit} (hcourse : Course Weather start service outcome left) :
      Happens service left .start
  | load {rules : List Rule} {outcome : Outcome Unit}
      (hcourse : Course Weather (loadRules rules) service outcome left) :
      Happens service left (.load rules)
  | request {request : Request} {outcome : Outcome Response}
      (hcourse : Course Weather (answer request) service outcome left) :
      Happens service left (.request request)

/-- A history of a service: the moments between its events, the latest first. -/
inductive History (first : Service) : List Service → Prop where
  | made : History first [first]
  | next {now left : Service} {earlier : List Service} {event : Event}
      (hhistory : History first (now :: earlier)) (hevent : Happens now left event) :
      History first (left :: now :: earlier)

/-- The rule sets that the engine had in a history. -/
def ruleSets (moments : List Service) : Set RuleSet :=
  { set | ∃ moment ∈ moments, moment.engine.ruleSet = set }

/-- The service with a cache server that is there already. -/
def withServer (service : Service) (server : CacheServer) : Service :=
  { service with cache := { service.cache with server } }

theorem weather_reloads {service turned : Service} (hweather : Weather service turned) :
    Reloads service turned := by
  obtain ⟨storeOutage, cacheOutage, rfl⟩ := hweather
  exact ⟨rfl, rfl, rfl, .inl rfl, ResultCache.drops_refl _⟩

variable {now left : Service} {request : Request} {sets : Set RuleSet}

/-- On its course on its own, a request to classify counts sees one engine. -/
theorem along_of_course {ruleId : String} {outcome : Outcome Response}
    (hcounts : destinationOf now request = .endpoint .classifyCounts ruleId)
    (hcourse : Course Weather (answer request) now outcome left)
    (hcorrect : now.cache.server.Correct sets) (hnow : now.engine.ruleSet ∈ sets) :
    ∃ progress, Responded Answers progress outcome ∧ left.engine = now.engine ∧
      Along now request (fun engine decider => engine = now.engine ∧ decider = now.engine)
        progress left := by
  let seen : Engine → Engine → Prop := fun engine decider =>
    engine = now.engine ∧ decider = now.engine
  let invariant : Progress → Service → Prop := fun progress service =>
    service.engine = now.engine ∧ Along now request seen progress service
  have hthink (progress : Progress) (service : Service) (later : Progress) (changed : Service)
      (hkept : invariant progress service)
      (hmove : (outline now request).think progress service later changed) :
      invariant later changed := by
    obtain ⟨hengine, halong⟩ := hkept
    exact ⟨hmove.engine.trans hengine,
      halong.thinks ⟨hengine, hengine⟩ (fun _ hseen => ⟨hseen.1, hengine⟩) hmove⟩
  have hask (progress : Progress) (service : Service) (later : Progress) (changed : Service)
      (hkept : invariant progress service)
      (hmove : (outline now request).ask progress service later changed) :
      invariant later changed := by
    obtain ⟨hengine, halong⟩ := hkept
    exact ⟨hmove.engine.trans hengine,
      halong.calls hcorrect (fun engine hseen => hseen.1 ▸ hnow) hmove⟩
  have hweather (progress : Progress) (service turned : Service)
      (hturned : Weather service turned) (hkept : invariant progress service) :
      invariant progress turned := by
    refine ⟨?_, hkept.2.reloads (weather_reloads hturned)⟩
    obtain ⟨storeOutage, cacheOutage, rfl⟩ := hturned
    exact hkept.1
  exact hcourse.follows (fun _ _ hkept => hkept.2.known) hweather hthink hask
    (answer_follows hcounts) ⟨rfl, along_start⟩

/-- On its own, a request that does not lead to the classification of counts
reloads. -/
theorem reloads_of_course {outcome : Outcome Response}
    (hother : ∀ ruleId, destinationOf now request ≠ .endpoint .classifyCounts ruleId)
    (hcourse : Course Weather (answer request) now outcome left) : Reloads now left := by
  let invariant : Unit → Service → Prop := fun _ service => Reloads now service
  have hknown (stage : Unit) (service : Service) (hkept : invariant stage service) :
      (reloading now).known service := ⟨hkept.role, hkept.config⟩
  have hkept : ∃ later, True ∧ invariant later left :=
    hcourse.follows hknown
      (fun _ _ _ hturned hkept => hkept.trans (weather_reloads hturned))
      (fun _ _ _ _ hkept hmove => hkept.trans hmove)
      (fun _ _ _ _ hkept hmove => hkept.trans hmove) (answer_reloads hother)
      (reloads_refl now)
  obtain ⟨_, -, hreloads⟩ := hkept
  exact hreloads

/-- A service is made without rules. -/
theorem engine_of_classification {config : Config} {rows : List Row} {made : Service}
    (hmade : classification config rows = .ok made) : made.engine.ruleSet = .empty := by
  unfold classification at hmade
  cases hlevel : config.checkLogLevel with
  | error failure =>
      rw [hlevel] at hmade
      cases hmade
  | ok level =>
      rw [hlevel] at hmade
      cases hpolicy : ZeroTotalPolicy.ofName config.zeroTotalPolicy with
      | error failure =>
          rw [hpolicy] at hmade
          cases hmade
      | ok policy =>
          rw [hpolicy] at hmade
          cases hmade
          rfl

/-- The engine has a compiled rule set, and the decisions on the cache server are
correct for all compiled ones among these rule sets. -/
structure Sound (all : Set RuleSet) (service : Service) : Prop where
  built : service.engine.ruleSet.IsBuilt
  correct : service.cache.server.Correct { set ∈ all | set.IsBuilt }

variable {all : Set RuleSet}

theorem Sound.reloads (hsound : Sound all now) (hreloads : Reloads now left) :
    Sound all left where
  built := by
    rcases hreloads.ruleSet with hsame | hcompiled
    · exact hsame ▸ hsound.built
    · exact hcompiled
  correct := hsound.correct.of_subset hreloads.entries

/-- Each event leaves the service sound, if the digest tells apart the rule sets,
that of the moment among them. -/
theorem Sound.happens (hsound : Sound all now) (hdiffer : RuleSet.DigestsDiffer all)
    (hnow : now.engine.ruleSet ∈ all) {event : Event} (hevent : Happens now left event) :
    Sound all left := by
  cases hevent with
  | start hcourse =>
      exact hsound.reloads (hcourse.respects reloads_refl Reloads.trans
        (fun _ _ => weather_reloads) reloads_start)
  | load hcourse =>
      exact hsound.reloads (hcourse.respects reloads_refl Reloads.trans
        (fun _ _ => weather_reloads) (reloads_loadRules _))
  | @request request outcome hcourse =>
      by_cases hcounts : ∃ ruleId, destinationOf now request = .endpoint .classifyCounts ruleId
      · obtain ⟨ruleId, hcounts⟩ := hcounts
        obtain ⟨progress, -, hengine, halong⟩ :=
          along_of_course hcounts hcourse hsound.correct ⟨hnow, hsound.built⟩
        refine ⟨hengine ▸ hsound.built, ?_⟩
        apply halong.correct hsound.correct
        · intro first hfirst second hsecond
          exact hdiffer first hfirst.1 second hsecond.1
        · exact fun set hset => hset.2
        · rintro _ _ ⟨rfl, rfl⟩
          exact ⟨⟨hnow, hsound.built⟩, hnow, hsound.built⟩
        · rintro engine decider tier rfl
          obtain ⟨⟨rfl, rfl⟩, -⟩ := halong.fits
          rfl
      · apply hsound.reloads (reloads_of_course _ hcourse)
        exact fun ruleId h => hcounts ⟨ruleId, h⟩

/-- The service is sound at every moment of a history that begins so. -/
theorem History.sound {first : Service} {moments : List Service}
    (hhistory : History first moments) (hdiffer : RuleSet.DigestsDiffer all)
    (hall : ruleSets moments ⊆ all) (hfirst : Sound all first) :
    ∀ moment ∈ moments, Sound all moment := by
  induction hhistory with
  | made =>
      intro moment hmem
      rw [List.mem_singleton.mp hmem]
      exact hfirst
  | @next now left earlier event hhistory hevent ih =>
      have hbefore := ih fun set hset => by
        obtain ⟨moment, hmem, hset⟩ := hset
        exact hall ⟨moment, List.mem_cons_of_mem _ hmem, hset⟩
      have hnow : now.engine.ruleSet ∈ all :=
        hall ⟨now, List.mem_cons_of_mem _ List.mem_cons_self, rfl⟩
      intro moment hmem
      rcases List.mem_cons.mp hmem with rfl | hold
      · exact (hbefore now List.mem_cons_self).happens hdiffer hnow hevent
      · exact hbefore moment hold

/-- An answer of status 200 to a request to classify counts tells the tier that the engine
gives, from the cache or not, if the decisions on the cache server are correct. -/
theorem tells_of_course {ruleId : String}
    (hcounts : destinationOf now request = .endpoint .classifyCounts ruleId)
    {response : Response} (hanswer : Course Weather (answer request) now (.ok response) left)
    (hcorrect : now.cache.server.Correct sets) (hnow : now.engine.ruleSet ∈ sets)
    (hstatus : response.status = 200) :
    ∃ whole tier, Asks request whole ∧ now.engine.classify whole.toCounts = .ok tier ∧
      response.body.field? "tier" = some (.string tier.name) := by
  obtain ⟨progress, htold, -, halong⟩ := along_of_course hcounts hanswer hcorrect hnow
  have htells := htold response rfl hstatus
  have hfits := halong.fits
  cases progress with
  | arrived => cases htells
  | asked engine => cases htells
  | found engine tier =>
      obtain ⟨⟨rfl, -⟩, whole, hasks, htier⟩ := hfits
      exact ⟨whole, tier, hasks, htier, htells.1⟩
  | decided engine decider tier =>
      obtain ⟨⟨-, rfl⟩, -, whole, hasks, htier⟩ := hfits
      exact ⟨whole, tier, hasks, htier, htells.1⟩

/-- In every history of a service that finds no decisions on its cache server, an
answer of status 200 to a request to classify counts tells the tier that the engine
of the moment gives for these counts, whether or not it comes from the cache; given
that the digest tells apart the canonical texts of the history. -/
theorem answer_tells_engine {config : Config} {rows : List Row} {made : Service}
    (hmade : classification config rows = .ok made) {server : CacheServer}
    (hserver : ∀ entry ∈ server.entries,
      ResultCache.keyStart.toList.isPrefixOf entry.key.toList = false)
    {earlier : List Service} (hhistory : History (made.withServer server) (now :: earlier))
    (hdiffer : RuleSet.DigestsDiffer (ruleSets (now :: earlier))) {ruleId : String}
    (hcounts : destinationOf now request = .endpoint .classifyCounts ruleId)
    {response : Response} (hanswer : Course Weather (answer request) now (.ok response) left)
    (hstatus : response.status = 200) :
    ∃ whole tier, Asks request whole ∧ now.engine.classify whole.toCounts = .ok tier ∧
      response.body.field? "tier" = some (.string tier.name) := by
  have hnow : now.engine.ruleSet ∈ ruleSets (now :: earlier) :=
    ⟨now, List.mem_cons_self, rfl⟩
  have hfirst : Sound (ruleSets (now :: earlier)) (made.withServer server) := by
    refine ⟨?_, CacheServer.correct_of_no_key hserver⟩
    rw [withServer, engine_of_classification hmade]
    exact RuleSet.isBuilt_empty
  have hsound := hhistory.sound hdiffer (fun _ h => h) hfirst now List.mem_cons_self
  exact tells_of_course hcounts hanswer hsound.correct ⟨hnow, hsound.built⟩ hstatus

theorem weather_refl (service : Service) : Weather service service :=
  ⟨service.store.outage, service.cache.server.outage, rfl⟩

/-- A service whose table has two rules for experts; the first one takes nobody for one. -/
def stocked : Service :=
  ofConfig .classification plainConfig .nan [expertRow "strict" 999, expertRow "lenient" 0]

/-- The service when it has been started. -/
def started : Service :=
  (start.run stocked).2

/-- It has been asked to classify counts. -/
def asked : Service :=
  ((answer oneHigh).run started).2

/-- The first rule has been deleted. -/
def pruned : Service :=
  ((answer (deletion "strict")).run asked).2

/-- It has been asked to classify the counts again. -/
def relaxed : Service :=
  ((answer oneHigh).run pruned).2

private theorem history_relaxed :
    History (stocked.withServer .empty) [relaxed, pruned, asked, started, stocked] :=
  .next (.next (.next (.next .made (.start (course_run weather_refl _ _)))
    (.request (course_run weather_refl _ _))) (.request (course_run weather_refl _ _)))
    (.request (course_run weather_refl _ _))

/-- The two rules are the one that counts in turn, and the digests of their texts differ. -/
private theorem digestsDiffer_relaxed :
    RuleSet.DigestsDiffer (ruleSets [relaxed, pruned, asked, started, stocked]) := by
  apply RuleSet.digestsDiffer_of_two started.engine.ruleSet.text relaxed.engine.ruleSet.text
  · rintro set ⟨moment, hmem, rfl⟩ hrules
    have htexts : ∀ moment ∈ [relaxed, pruned, asked, started, stocked],
        moment.engine.ruleSet.chosen.isEmpty = true ∨
        moment.engine.ruleSet.text = started.engine.ruleSet.text ∨
        moment.engine.ruleSet.text = relaxed.engine.ruleSet.text := by decide +kernel
    refine (htexts moment hmem).resolve_left fun hnone => hrules ?_
    exact List.map_eq_nil_iff.mpr (List.isEmpty_iff.mp hnone)
  · decide +kernel

/-- The answer is another one after the deletion, and when it comes from the cache then, it
tells the tier of the engine all the same. -/
theorem answer_tells_engine_relaxed :
    shown ((answer oneHigh).run started).1 =
        some (Tier.beginner.name, started.engine.version, false) ∧
      ∃ response whole tier, ((answer oneHigh).run relaxed).1 = .ok response ∧
        Tells response.body .expert relaxed.engine true ∧ Asks oneHigh whole ∧
        relaxed.engine.classify whole.toCounts = .ok tier ∧
        response.body.field? "tier" = some (.string tier.name) := by
  obtain ⟨hrole, hlocal⟩ : relaxed.role = .classification ∧ relaxed.config.isLocal = false := by
    decide +kernel
  have hcounts : destinationOf relaxed oneHigh = .endpoint .classifyCounts "" := by
    unfold destinationOf routes
    rw [hrole, hlocal]
    rfl
  have hshown : shown ((answer oneHigh).run relaxed).1 =
      some (Tier.expert.name, relaxed.engine.version, true) := by decide +kernel
  obtain ⟨response, hresponse, hstatus, hcached⟩ := tells_of_shown hshown
  have hanswer := course_run weather_refl (answer oneHigh) relaxed
  rw [hresponse] at hanswer
  obtain ⟨whole, tier, hasks, htier, htells⟩ :=
    answer_tells_engine (rfl : classification plainConfig
      [expertRow "strict" 999, expertRow "lenient" 0] = .ok stocked) (by decide) history_relaxed
      digestsDiffer_relaxed hcounts hanswer hstatus
  exact ⟨by decide +kernel, response, whole, tier, hresponse, hcached, hasks, htier, htells⟩

end Service

end SkillTiers
