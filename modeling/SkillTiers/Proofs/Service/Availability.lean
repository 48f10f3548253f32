/-
# Requests for a tier are answered

A request for the tier of counts, of a skill or of a category is answered with one as
long as the cache server answers and the counts stay in range under the rules
(`Service.answer_for_tier`): the handling of such a request yields a reply that tells a
tier and holds no number that cannot be sent. Requests may come with counts of any size,
though. A share that is out of range is answered with a status of 500, and so is a sum of
a count and a percentage for which a rule asks (`Service.not_answer_for_tier`).
-/

import SkillTiers.Proofs.Cache.Faults
import SkillTiers.Proofs.Job.Yield
import SkillTiers.Proofs.Rule.Totality
import SkillTiers.Proofs.Service.Classifying
import SkillTiers.Proofs.Service.Response

namespace SkillTiers

-- A power is the one of the core library, whatever else is imported.
attribute [local instance (high)] instPowNat

/-! ### What is counted -/

namespace SkillRatings

/-- The counts of the ratings. -/
def whole (skill : SkillRatings) : WholeCounts where
  high := (skill.ratings.map some).count (some .high)
  medium := (skill.ratings.map some).count (some .medium)
  low := (skill.ratings.map some).count (some .low)
  total := skill.total.getD (skill.ratings.map some).length

theorem ofRatings_eq (skill : SkillRatings) :
    Counts.ofRatings (skill.ratings.map some) (skill.total.map fun total => Number.int total) =
      skill.whole.toCounts := by
  unfold Counts.ofRatings whole WholeCounts.toCounts
  cases skill.total <;> rfl

end SkillRatings

/-- The counts of the tiers of a category. -/
def Tier.whole (tiers : List Tier) : WholeCounts where
  high := (tiers.map some).count (some .expert)
  medium := (tiers.map some).count (some .intermediate)
  low := (tiers.map some).count (some .beginner)
  total := (tiers.map some).length

theorem Tier.ofTiers_eq (tiers : List Tier) :
    Counts.ofTiers (tiers.map some) = (Tier.whole tiers).toCounts :=
  rfl

/-! ### The cache answers -/

namespace ResultCache

open Job

variable {α β : Type}

/-- The cache server fails no call from now on but as a server does that is down. -/
def IsSpared (cache : ResultCache) : Prop :=
  cache.IsCalm ∨ cache.server.outage.fault = .redis

/-- A result, or the failure of a server that is down. -/
def IsBearable (outcome : Outcome α) : Prop :=
  IsResult outcome ∨ outcome = .error (.fault .redis)

/-- A call that leaves the plan of failures alone ends bearably. -/
theorem yields_call {act : CacheServer → α × CacheServer}
    (hact : ∀ server, (act server).2.outage = server.outage) :
    Yields IsSpared IsBearable (call act).attempt := by
  intro cache hspared
  have hrun : (call act).attempt.run cache =
      (.ok (cache.server.call act).1, { cache with server := (cache.server.call act).2 }) :=
    run_attempt (call act) cache
  rw [hrun]
  refine ⟨_, rfl, ?_⟩
  unfold CacheServer.call
  rcases next_cases cache.server.outage with ⟨plan, hnext, hfault, htimes⟩ |
    ⟨plan, hnext, hfault, htimes⟩
  · rw [hnext]
    rcases hspared with hcalm | hdown
    · exact absurd htimes (by simp [show cache.server.outage.times = 0 from hcalm])
    · exact ⟨.inr (by rw [hdown]), .inr (hfault.trans hdown)⟩
  · rw [hnext]
    refine ⟨.inl (isResult_ok _), ?_⟩
    simpa only [IsSpared, IsCalm, hact, hfault, htimes] using hspared

/-- A job that ends bearably, and then the rest. -/
theorem yields_attempt_bind {job : Job ResultCache α} {rest : α → Job ResultCache β}
    (hjob : Yields IsSpared IsBearable job.attempt)
    (hrest : ∀ value, Yields IsSpared IsBearable (rest value).attempt) :
    Yields IsSpared IsBearable (job >>= rest).attempt := by
  intro cache hspared
  obtain ⟨outcome, houtcome, hbearable, hleft⟩ := hjob cache hspared
  rw [run_attempt] at houtcome hleft ⊢
  rw [run_bind]
  generalize job.run cache = ended at houtcome hleft
  obtain ⟨inner, left⟩ := ended
  cases houtcome
  rcases hbearable with ⟨value, rfl⟩ | rfl
  · obtain ⟨outcome, houtcome, hthen⟩ := hrest value left hleft
    rw [run_attempt] at houtcome hthen
    exact ⟨outcome, houtcome, hthen⟩
  · exact ⟨_, rfl, .inr rfl, hleft⟩

/-- What ends bearably online has a result, and offline there is the other answer. -/
theorem yields_online {answer : α} {job : Job ResultCache α}
    (hjob : Yields IsSpared IsBearable job.attempt) :
    Yields IsSpared (fun _ => True) (online answer job) := by
  refine (yields_read _).bind fun isConnected _ => ?_
  cases isConnected with
  | false => exact yields_return trivial
  | true =>
      refine hjob.bind fun outcome hbearable => ?_
      rcases hbearable with ⟨value, rfl⟩ | rfl
      · exact yields_return trivial
      · exact yields_return trivial

variable {counts : Counts}

theorem yields_get (htexts : counts.HaveTexts) (version policy : String) :
    Yields IsSpared (fun _ => True) (get version policy counts) := by
  rw [get_of_haveTexts htexts]
  refine yields_online (yields_attempt_bind (yields_call fun server => ?_) fun _ =>
    yields_return (.inl (isResult_ok _)))
  unfold CacheServer.lookUp
  cases server.value? (keyText version policy counts) <;> rfl

theorem yields_set (htexts : counts.HaveTexts) (version policy : String) (tier : Tier)
    (ttl : Option Number) :
    Yields IsSpared (fun _ => True) (set version policy counts tier ttl) := by
  rw [set_of_haveTexts htexts]
  refine yields_online (yields_attempt_bind ?_ fun _ =>
    yields_attempt_bind (yields_call fun _ => rfl) fun _ => yields_return (.inl (isResult_ok _)))
  exact fun cache hspared => ⟨_, rfl, .inl (isResult_ok cache.defaultTtl), hspared⟩

end ResultCache

namespace Service

open Job
open ResultCache (IsSpared)

variable {α : Type} {caches : ResultCache → Prop} {setting : Service} {request : Request}

/-- The service has the role, the settings and the engine of another, and its cache is one of
these. -/
structure Serves (caches : ResultCache → Prop) (setting service : Service) : Prop where
  role : service.role = setting.role
  config : service.config = setting.config
  engine : service.engine = setting.engine
  cache : caches service.cache

theorem yields_meter (change : Metrics → Metrics) :
    Yields (Serves caches setting) (fun _ => True) (meter change) :=
  yields_change fun _ hserves => ⟨hserves.role, hserves.config, hserves.engine, hserves.cache⟩

theorem yields_onCache {allowed : α → Prop} {job : Job ResultCache α}
    (hjob : Yields ResultCache.IsSpared allowed job) :
    Yields (Serves IsSpared setting) allowed (onCache job) := by
  unfold onCache
  apply Yields.onPart _ _ _ _ _ hjob
  · exact fun _ _ => rfl
  · exact fun _ _ _ => rfl
  · exact fun _ => rfl
  · exact fun _ => Serves.cache
  · exact fun _ _ hserves hspared => ⟨hserves.role, hserves.config, hserves.engine, hspared⟩

theorem yields_timing {allowed : α → Prop} {scope : String} {job : Job Service α}
    (hjob : Yields (Serves caches setting) allowed job) :
    Yields (Serves caches setting) allowed (timing scope job) :=
  hjob.attempt.bind fun _ houtcome => (yields_meter _).bind fun _ _ => yields_done houtcome

/-- The engine is that of the settings whenever it is read. -/
theorem yields_look_engine :
    Yields (Serves caches setting) (· = setting.engine) (look (·.engine)) :=
  yields_look fun _ => Serves.engine

/-- Counts that have a tier are decided on, by the cache or by the engine. -/
theorem yields_decideTier {version : String} {counts : Counts} (htexts : counts.HaveTexts)
    (htier : IsResult (setting.engine.classify counts)) :
    Yields (Serves IsSpared setting) (fun _ => True) (decideTier version counts) := by
  have hservice : Yields (Serves IsSpared setting) (fun service => service.engine = setting.engine)
      (look id) := yields_look fun _ => Serves.engine
  refine hservice.bind fun service hengine => ?_
  dsimp only
  split
  · refine (yields_onCache (ResultCache.yields_get htexts _ _)).bind fun kept? _ => ?_
    refine (yields_meter _).bind fun _ _ => ?_
    cases kept? with
    | some kept => exact yields_return trivial
    | none =>
        refine yields_look_engine.bind fun engine hengine => ?_
        subst hengine
        refine (yields_of_isResult htier).bind fun tier _ => ?_
        exact (yields_onCache (ResultCache.yields_set htexts _ _ _ _)).bind fun _ _ =>
          yields_return trivial
  · rw [hengine]
    exact (yields_of_isResult htier).bind fun _ _ => yields_return trivial

/-! ### Replies -/

/-- The status is 200 and the body tells a tier. -/
def TellsTier (status : Nat) (body : Json) : Prop :=
  status = 200 ∧ ∃ tier : Tier, body.field? "tier" = some (.string tier.name)

/-- The status is 200, and the body tells this tier and the input that it is of. -/
def Echoes (tier : Tier) (input : Json) (status : Nat) (body : Json) : Prop :=
  status = 200 ∧ body.field? "tier" = some (.string tier.name) ∧
    body.field? "input" = some input

theorem Echoes.tellsTier {tier : Tier} {input : Json} {status : Nat} {body : Json}
    (hechoes : Echoes tier input status body) : TellsTier status body :=
  ⟨hechoes.1, tier, hechoes.2.1⟩

/-- A reply that tells something and that can be sent. -/
structure Sends (told : Nat → Json → Prop) (reply : Reply) : Prop where
  tells : told reply.status reply.body
  isFinite : reply.body.isFinite = true

theorem isFinite_metricsJson {whole : WholeCounts} {metrics : SkillMetrics}
    (hcounts : whole.AreOf metrics) : (metricsJson metrics).isFinite = true := by
  have hpercent (value : Double) : (Json.ofFinite value).isFinite = true := by
    unfold Json.ofFinite
    split
    · rename_i hfinite
      rw [Json.isFinite, hfinite]
    · simp only [Json.isFinite]
  unfold metricsJson
  rw [hcounts.high, hcounts.medium, hcounts.low, hcounts.total]
  simp [Json.isFinite, Json.fieldsAreFinite, hpercent]

theorem isFinite_countsJson (whole : WholeCounts) :
    (countsJson whole.toCounts).isFinite = true := by
  simp [countsJson, Counts.named, WholeCounts.toCounts, Json.isFinite, Json.fieldsAreFinite]

/-- What a request for a tier asks for, and at which endpoint: the tier of counts, of the
ratings of a skill or of the tiers of a category. -/
inductive AsksTier (request : Request) : Endpoint → WholeCounts → Prop where
  | counts {whole : WholeCounts} (hbody : readBody WholeCounts.read request = .valid whole) :
      AsksTier request .classifyCounts whole
  | skill {skill : SkillRatings} (hbody : readBody SkillRatings.read request = .valid skill) :
      AsksTier request .classifySkill skill.whole
  | category {tiers : List Tier} (hbody : readBody Tier.readSkillTiers request = .valid tiers) :
      AsksTier request .classifyCategory (Tier.whole tiers)

theorem yields_classifyCounts {whole : WholeCounts}
    (hbody : readBody WholeCounts.read request = .valid whole)
    (htier : IsResult (setting.engine.classify whole.toCounts)) :
    Yields (Serves IsSpared setting) (Sends TellsTier) (classifyCounts request) := by
  obtain ⟨metrics, hmetrics⟩ := Engine.isResult_metrics htier
  unfold classifyCounts
  rw [withBody_of_valid hbody]
  refine yields_look_engine.bind fun engine hengine => ?_
  subst hengine
  refine (yields_done ⟨metrics, hmetrics, rfl⟩).bind fun found hfound => ?_
  subst hfound
  refine (yields_timing (yields_decideTier (Asks.haveTexts hbody) htier)).bind fun decision _ => ?_
  obtain ⟨tier, isCached⟩ := decision
  refine (yields_meter _).bind fun _ _ => yields_return ⟨⟨rfl, tier, rfl⟩, ?_⟩
  have hfinite := isFinite_metricsJson (WholeCounts.areOf_metrics hmetrics)
  simp [Json.isFinite, Json.fieldsAreFinite, hfinite]

theorem yields_classifyBy {scope : String} {whole : WholeCounts} {tier : Tier}
    {classify : Engine → Outcome Tier} (htier : classify setting.engine = .ok tier) :
    Yields (Serves caches setting) (Sends (Echoes tier (countsJson whole.toCounts)))
      (classifyBy scope whole.toCounts classify) := by
  unfold classifyBy
  refine yields_look_engine.bind fun engine hengine => ?_
  subst hengine
  refine (yields_timing (yields_done ⟨tier, htier, rfl⟩)).bind fun found hfound => ?_
  subst hfound
  refine (yields_meter _).bind fun _ _ => yields_return ⟨⟨rfl, rfl, rfl⟩, ?_⟩
  simp [Json.isFinite, Json.fieldsAreFinite, isFinite_countsJson whole]

/-- A skill whose counts have a tier is answered with it. -/
theorem yields_classifySkill {skill : SkillRatings} {tier : Tier}
    (hbody : readBody SkillRatings.read request = .valid skill)
    (htier : setting.engine.classify skill.whole.toCounts = .ok tier) :
    Yields (Serves caches setting) (Sends (Echoes tier (countsJson skill.whole.toCounts)))
      (classifySkill request) := by
  unfold classifySkill
  rw [withBody_of_valid hbody]
  dsimp only
  rw [SkillRatings.ofRatings_eq]
  apply yields_classifyBy
  unfold Engine.classifySkill
  rw [SkillRatings.ofRatings_eq]
  exact htier

/-- A category whose counts have a tier is answered with it. -/
theorem yields_classifyCategory {tiers : List Tier} {tier : Tier}
    (hbody : readBody Tier.readSkillTiers request = .valid tiers)
    (htier : setting.engine.classify (Tier.whole tiers).toCounts = .ok tier) :
    Yields (Serves caches setting) (Sends (Echoes tier (countsJson (Tier.whole tiers).toCounts)))
      (classifyCategory request) := by
  unfold classifyCategory
  rw [withBody_of_valid hbody]
  dsimp only
  rw [Tier.ofTiers_eq]
  exact yields_classifyBy htier

theorem Sends.mono {told told' : Nat → Json → Prop} {reply : Reply} (hsends : Sends told reply)
    (htold : ∀ status body, told status body → told' status body) : Sends told' reply :=
  ⟨htold _ _ hsends.tells, hsends.isFinite⟩

/-- A request for a tier of counts that have one is handled with a reply that tells one. -/
theorem yields_handle {endpoint : Endpoint} (ruleId : String) {whole : WholeCounts}
    (hasks : AsksTier request endpoint whole)
    (htier : IsResult (setting.engine.classify whole.toCounts)) :
    Yields (Serves IsSpared setting) (Sends TellsTier) (handle endpoint ruleId request) := by
  cases hasks with
  | counts hbody => exact yields_classifyCounts hbody htier
  | skill hbody =>
      obtain ⟨tier, htier⟩ := htier
      exact (yields_classifySkill hbody htier).mono fun _ hsends =>
        hsends.mono fun _ _ => Echoes.tellsTier
  | category hbody =>
      obtain ⟨tier, htier⟩ := htier
      exact (yields_classifyCategory hbody htier).mono fun _ hsends =>
        hsends.mono fun _ _ => Echoes.tellsTier

section Answer

variable {told : Nat → Json → Prop} {endpoint : Endpoint} {ruleId : String}

theorem yields_dispatch (hleads : destinationOf setting request = .endpoint endpoint ruleId)
    (hhandle : Yields (Serves caches setting) (Sends told) (handle endpoint ruleId request)) :
    Yields (Serves caches setting) (Sends told) (dispatch request) := by
  have hservice : Yields (Serves caches setting)
      (fun service => destinationOf service request = .endpoint endpoint ruleId) (look id) := by
    refine yields_look fun service hserves => ?_
    unfold destinationOf
    dsimp only [id]
    rw [hserves.role, hserves.config]
    exact hleads
  refine hservice.bind fun service hdestination => ?_
  unfold destinationOf at hdestination
  rw [hdestination]
  refine hhandle.bind fun reply hreply => ?_
  refine yields_done ⟨reply, ?_, hreply⟩
  rw [checkFinite, if_pos hreply.isFinite]

theorem yields_nameRequest (request : Request) :
    Yields (Serves caches setting) (fun _ => True) (nameRequest request) := by
  unfold nameRequest
  split
  · exact yields_return trivial
  · exact fun service hserves => ⟨_, rfl, trivial, hserves.role, hserves.config,
      hserves.engine, hserves.cache⟩

/-- What is sent by the handling of a request is told by the response. -/
theorem yields_answer (hleads : destinationOf setting request = .endpoint endpoint ruleId)
    (hhandle : Yields (Serves caches setting) (Sends told) (handle endpoint ruleId request)) :
    Yields (Serves caches setting) (fun response => told response.status response.body)
      (answer request) := by
  unfold answer
  refine (yields_nameRequest request).bind fun id _ => ?_
  refine (yields_dispatch hleads hhandle).attempt.bind fun outcome houtcome => ?_
  obtain ⟨reply, rfl, hreply⟩ := houtcome
  exact (yields_meter _).bind fun _ _ => yields_return hreply.tells

end Answer

/-! ### Failures -/

section Failing

variable {weather : Service → Service → Prop} {now left : Service}

/-- A job whose time is measured has its own course before. -/
theorem timing_course {scope : String} {job : Job Service α} {outcome : Outcome α}
    (hcourse : Course weather (timing scope job) now outcome left) :
    ∃ mid, Course weather job now outcome mid := by
  obtain ⟨inner, mid, hjob, hrest⟩ := attempt_then_course hcourse
  obtain ⟨_, -, hdone⟩ := meter_then_course hrest
  obtain ⟨rfl, -⟩ := done_course hdone
  exact ⟨mid, hjob⟩

variable {outcome : Outcome Reply} {failure : Failure}

/-- Counts without metrics are not classified. -/
theorem classifyCounts_course {whole : WholeCounts}
    (hbody : readBody WholeCounts.read request = .valid whole)
    (hmetrics : now.engine.metrics whole.toCounts = .error failure)
    (hcourse : Course weather (classifyCounts request) now outcome left) :
    outcome = .error failure := by
  unfold classifyCounts at hcourse
  rw [withBody_of_valid hbody] at hcourse
  have hrest := look_then_course hcourse
  dsimp only at hrest
  rw [hmetrics] at hrest
  exact (done_course hrest).1

/-- A classification by the engine alone fails as the engine does. -/
theorem classifyBy_course {scope : String} {counts : Counts} {classify : Engine → Outcome Tier}
    (hclassify : classify now.engine = .error failure)
    (hcourse : Course weather (classifyBy scope counts classify) now outcome left) :
    outcome = .error failure := by
  have hrest := look_then_course hcourse
  rw [hclassify] at hrest
  rcases bind_course hrest with ⟨other, rfl, htiming⟩ | ⟨tier, _, htiming, -⟩
  · obtain ⟨_, hdone⟩ := timing_course htiming
    cases (done_course hdone).1
    rfl
  · obtain ⟨_, hdone⟩ := timing_course htiming
    cases (done_course hdone).1

/-- A request for the tier of ratings fails as the engine does. -/
theorem classifySkill_course {skill : SkillRatings}
    (hbody : readBody SkillRatings.read request = .valid skill)
    (hclassify : now.engine.classify skill.whole.toCounts = .error failure)
    (hcourse : Course weather (classifySkill request) now outcome left) :
    outcome = .error failure := by
  unfold classifySkill at hcourse
  rw [withBody_of_valid hbody] at hcourse
  refine classifyBy_course ?_ hcourse
  unfold Engine.classifySkill
  rw [SkillRatings.ofRatings_eq]
  exact hclassify

/-- A request for the tier of tiers fails as the engine does. -/
theorem classifyCategory_course {tiers : List Tier}
    (hbody : readBody Tier.readSkillTiers request = .valid tiers)
    (hclassify : now.engine.classify (Tier.whole tiers).toCounts = .error failure)
    (hcourse : Course weather (classifyCategory request) now outcome left) :
    outcome = .error failure := by
  unfold classifyCategory at hcourse
  rw [withBody_of_valid hbody] at hcourse
  refine classifyBy_course ?_ hcourse
  unfold Engine.classifyCategory
  rw [Tier.ofTiers_eq]
  exact hclassify

/-- A request for the tier of counts whose shares are out of range fails. -/
theorem handle_overflow {endpoint : Endpoint} {ruleId : String} {whole : WholeCounts}
    (hasks : AsksTier request endpoint whole) (hshares : ¬ whole.SharesInRange)
    (hcourse : Course weather (handle endpoint ruleId request) now outcome left) :
    ∃ cause, outcome = .error (.overflow cause) := by
  obtain ⟨cause, hmetrics⟩ := WholeCounts.metrics_overflow hshares now.engine.policy
  have hclassify : now.engine.classify whole.toCounts = .error (.overflow cause) := by
    unfold Engine.classify Engine.metrics
    rw [hmetrics]
    rfl
  refine ⟨cause, ?_⟩
  cases hasks with
  | counts hbody => exact classifyCounts_course hbody hmetrics hcourse
  | skill hbody => exact classifySkill_course hbody hclassify hcourse
  | category hbody => exact classifyCategory_course hbody hclassify hcourse

/-- A request whose handling leaves the range of doubles is answered with a status of
500. -/
theorem status_of_overflow {endpoint : Endpoint} {ruleId : String} {service : Service}
    (hleads : destinationOf service request = .endpoint endpoint ruleId)
    (hfails : ∀ begun handled outcome, Quiet service begun →
      Course Eq (handle endpoint ruleId request) begun outcome handled →
      ∃ cause, outcome = .error (.overflow cause)) :
    ∃ response, ((answer request).run service).1 = .ok response ∧ response.status = 500 := by
  obtain ⟨response, hresponse, ⟨hnowhere, -, -⟩ |
    ⟨endpoint', ruleId', begun, handled, outcome, hleads', hbegun, hhandle, -, hreports⟩⟩ :=
      answer_course (course_run (fun _ => rfl) (answer request) service)
  · exact absurd hleads (hnowhere endpoint ruleId)
  · cases hleads.symm.trans hleads'
    obtain ⟨cause, rfl⟩ := hfails begun handled outcome hbegun hhandle
    exact ⟨response, hresponse, hreports⟩

end Failing

/-! ### Answers -/

/-- A request for a tier is answered with one, whatever the thresholds of the rules are, if
the counts stay in range under the rules and the cache server fails no call. It is answered
with a status of 500 if a share of the counts is out of range. -/
theorem answer_for_tier {service : Service} {endpoint : Endpoint} {ruleId : String}
    {whole : WholeCounts} (hcalm : service.cache.IsCalm)
    (hleads : destinationOf service request = .endpoint endpoint ruleId)
    (hasks : AsksTier request endpoint whole) :
    (whole.InRange service.engine.ruleSet →
      ∃ response, ((answer request).run service).1 = .ok response ∧
        TellsTier response.status response.body) ∧
    (¬ whole.SharesInRange →
      ∃ response, ((answer request).run service).1 = .ok response ∧ response.status = 500) := by
  refine ⟨fun hrange => ?_, fun hshares => ?_⟩
  · have hhandle := yields_handle ruleId hasks (Engine.isResult_classify hrange)
    obtain ⟨response, hresponse, htells, -⟩ :=
      yields_answer hleads hhandle service ⟨rfl, rfl, rfl, .inl hcalm⟩
    exact ⟨response, hresponse, htells⟩
  · exact status_of_overflow hleads fun _ _ _ _ hhandle => handle_overflow hasks hshares hhandle

/-- A service with a rule that adds a percentage to the total. -/
def adding : Service :=
  { plain with engine := ⟨.nan, .adding⟩ }

/-- Under this rule, the request for the tier of one subskill is answered. -/
theorem answer_for_tier_adding :
    ∃ response, ((answer oneHigh).run adding).1 = .ok response ∧
      TellsTier response.status response.body := by
  have hasks : AsksTier oneHigh .classifyCounts oneHighCounts := .counts rfl
  have hleads : destinationOf adding oneHigh = .endpoint .classifyCounts "" := rfl
  have hcounts : oneHighCounts.AtMost (2 ^ (53 : Nat)) := by
    unfold WholeCounts.AtMost oneHighCounts
    decide
  have hcalm : adding.cache.IsCalm := rfl
  have htexts : ∀ rule ∈ [RuleSet.addingRule], rule.HasShortTexts := by
    rw [List.forall_mem_singleton]
    apply Rule.hasShortTexts_of_few
    simp only [RuleSet.addingRule, Condition.compared]
    decide
  exact (answer_for_tier hcalm hleads hasks).1
    (RuleSet.inRange_of_build htexts RuleSet.build_adding hcounts)

/-- Counts of at most 2^53 are answered with a tier, whatever the rules are that the engine
has been built of. -/
theorem answer_for_tier_of_small {service : Service} {endpoint : Endpoint} {ruleId : String}
    {whole : WholeCounts} {rules : List Rule} (hcalm : service.cache.IsCalm)
    (hbuild : RuleSet.build rules = .ok service.engine.ruleSet)
    (htexts : ∀ rule ∈ rules, rule.HasShortTexts)
    (hleads : destinationOf service request = .endpoint endpoint ruleId)
    (hasks : AsksTier request endpoint whole) (hcounts : whole.AtMost (2 ^ (53 : Nat))) :
    ∃ response, ((answer request).run service).1 = .ok response ∧
      TellsTier response.status response.body := by
  have hrange := RuleSet.inRange_of_build htexts hbuild hcounts
  have hhandle := yields_handle ruleId hasks (Engine.isResult_classify hrange)
  obtain ⟨response, hresponse, htells, -⟩ :=
    yields_answer hleads hhandle service ⟨rfl, rfl, rfl, .inl hcalm⟩
  exact ⟨response, hresponse, htells⟩

/-! ### A request that is not answered with a tier -/

/-- A total that is out of range. -/
@[irreducible] def vastTotal : Nat :=
  10 ^ (400 : Nat)

/-- A request to classify a skill of which one subskill is rated. -/
def vastSkill : Request where
  method := "POST"
  path := "/classification/skills"
  headers := []
  body := some (.object [("ratings", .array [.string "high"]),
    ("total_subskills", .ofInt vastTotal)])

/-- A threshold that is missing or a finite double. -/
def HasPlainThreshold (condition : Condition) : Prop :=
  condition.value = .null ∨
    ∃ value : Double, value.isFinite = true ∧ condition.value = .number (.float value)

/-- The engine has no tier for the vast total. -/
theorem classify_vastSkill {whole : WholeCounts} (hwhole : whole = ⟨1, 0, 0, vastTotal⟩) :
    adding.engine.classify whole.toCounts = .error (.overflow .conversion) := by
  have hvast : rangeLimit ≤ vastTotal := by decide +kernel
  have hshares : whole.SharesInRange := by
    have hhundred : 100 < rangeLimit := by decide +kernel
    intro _ count hcount
    have htotal : 0 < whole.total := by
      rw [hwhole]
      exact Nat.lt_of_lt_of_le (Nat.zero_lt_of_lt hhundred) hvast
    have hone : count ≤ 1 := by
      rw [hwhole] at hcount
      revert count
      decide
    calc count * 100 ≤ 100 := by omega
      _ < rangeLimit := hhundred
      _ ≤ rangeLimit * whole.total := Nat.le_mul_of_pos_right _ htotal
  obtain ⟨metrics, hmetrics⟩ := (WholeCounts.isResult_metrics .nan whole).mpr hshares
  have htotal := (WholeCounts.areOf_metrics hmetrics).total
  rw [hwhole] at htotal
  have hclassify : adding.engine.classify whole.toCounts = RuleSet.adding.classify metrics := by
    change (whole.toCounts.metrics .nan >>= fun metrics => RuleSet.adding.classify metrics) = _
    rw [hmetrics]
    rfl
  rw [hclassify, RuleSet.classify_adding htotal hvast]

/-- Not all requests for a tier are answered with one, even where no threshold is out of
range and no call fails. -/
theorem not_answer_for_tier :
    ¬ ∀ (service : Service) (request : Request) (endpoint : Endpoint) (ruleId : String)
      (whole : WholeCounts), service.engine.ruleSet.IsBuilt →
      (∀ chosen ∈ service.engine.ruleSet.chosen,
        ∀ condition ∈ Condition.compared chosen.rule.conditions, HasPlainThreshold condition) →
      service.cache.IsCalm →
      destinationOf service request = .endpoint endpoint ruleId →
      AsksTier request endpoint whole →
      ∃ response, ((answer request).run service).1 = .ok response ∧
        TellsTier response.status response.body := by
  intro hall
  have hbody : readBody SkillRatings.read vastSkill = .valid ⟨[.high], some vastTotal⟩ :=
    readBody_eq_valid.mpr ⟨by decide +kernel, rfl⟩
  have hleads : destinationOf adding vastSkill = .endpoint .classifySkill "" := rfl
  have hthresholds : ∀ chosen ∈ adding.engine.ruleSet.chosen,
      ∀ condition ∈ Condition.compared chosen.rule.conditions, HasPlainThreshold condition := by
    intro chosen hchosen condition hcondition
    cases List.mem_singleton.mp hchosen
    cases List.mem_singleton.mp hcondition
    exact .inl rfl
  obtain ⟨response, hresponse, hstatus, -⟩ := hall adding vastSkill .classifySkill "" _
    RuleSet.isBuilt_adding hthresholds rfl hleads (.skill hbody)
  obtain ⟨other, hother, hfailed⟩ := status_of_overflow hleads
    fun begun handled outcome hbegun hhandle => by
      refine ⟨.conversion, classifySkill_course hbody ?_ hhandle⟩
      rw [hbegun.engine]
      exact classify_vastSkill rfl
  rw [hother] at hresponse
  cases hresponse
  rw [hfailed] at hstatus
  exact absurd hstatus (by decide)

end Service

end SkillTiers
