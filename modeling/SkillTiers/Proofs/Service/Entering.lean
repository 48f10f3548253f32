/-
# What handling a request counts

Most steps count nothing that is an entry (`Enters []`): only the classifications, the
refresh after a change of the rules and the reports of failures do. `Accounts` lists the
ways in which the handling of a request can end, each with the entries it has made by then:
what is counted for an answer, and what can stay behind where there is none. Every course
of the handling ends in one of them (`handle_accounts`), in whatever way calls fail on it.
-/

import SkillTiers.Proofs.Service.Availability
import SkillTiers.Proofs.Service.Height
import SkillTiers.Proofs.Telemetry.Entries

namespace SkillTiers

/-- The scope under which the tiers of an endpoint are counted. -/
def Endpoint.scope? : Endpoint → Option String
  | .classifyCounts => some "counts"
  | .classifySkill => some "skill"
  | .classifyCategory => some "category"
  | _ => none

/-- The name under which the changes of an endpoint are counted. -/
def Endpoint.operation? : Endpoint → Option String
  | .createRule => some "create"
  | .updateRule => some "update"
  | .deleteRule => some "delete"
  | .reorderRules => some "reorder"
  | .seedRules => some "seed"
  | _ => none

namespace Service

open Job Renewal

variable {α β : Type} {now mid left : Service} {request : Request} {endpoint : Endpoint}
  {ruleId : String}

/-- The counts of the service have grown by these entries. -/
def Enters (entries : List Entry) (service left : Service) : Prop :=
  service.metrics.Enters entries left.metrics

theorem enters_refl (service : Service) : Enters [] service service :=
  Metrics.enters_refl _

theorem Enters.trans {first second third : Service} {entries more : List Entry}
    (hfirst : Enters entries first second) (hsecond : Enters more second third) :
    Enters (entries ++ more) first third :=
  Metrics.Enters.trans hfirst hsecond

theorem enters_of_weather {service turned : Service} (hweather : Weather service turned) :
    Enters [] service turned := by
  obtain ⟨storeOutage, cacheOutage, rfl⟩ := hweather
  exact enters_refl _

/-! ### Steps that enter nothing -/

/-- Nothing is entered on a course of steps that enter nothing. -/
theorem enters_of_course {job : Job Service α} {outcome : Outcome α}
    (hcourse : Course Weather job now outcome left) (hjob : job.Respects (Enters [])) :
    Enters [] now left :=
  hcourse.respects enters_refl Enters.trans (fun _ _ => enters_of_weather) hjob

/-- A first part that enters nothing, and the rest. -/
theorem enters_then_course {job : Job Service β} {rest : β → Job Service α} {outcome : Outcome α}
    (hjob : job.Respects (Enters []))
    (hcourse : Course Weather (job >>= rest) now outcome left) :
    (∃ failure, outcome = .error failure ∧ Enters [] now left) ∨
      ∃ value mid, Enters [] now mid ∧ Course Weather (rest value) mid outcome left := by
  rcases bind_course hcourse with ⟨failure, rfl, hfirst⟩ | ⟨value, mid, hfirst, hrest⟩
  · exact .inl ⟨failure, rfl, enters_of_course hfirst hjob⟩
  · exact .inr ⟨value, mid, enters_of_course hfirst hjob, hrest⟩

theorem enters_look (read : Service → α) : (Job.look read).Respects (Enters []) :=
  respects_look enters_refl read

theorem enters_onStore (action : Store.Action α) : (onStore action).Respects (Enters []) :=
  respects_ask fun service => enters_refl service

theorem enters_onCache (job : Job ResultCache α) : (onCache job).Respects (Enters []) :=
  (respects_anything job).onPart fun service cache _ =>
    show Enters [] service { service with cache } from enters_refl service

theorem enters_meter {change : Metrics → Metrics}
    (hchange : ∀ metrics : Metrics, metrics.Enters [] (change metrics)) :
    (meter change).Respects (Enters []) :=
  respects_change fun service => hchange service.metrics

theorem enters_loadRules (rules : List Rule) : (loadRules rules).Respects (Enters []) := by
  intro service
  refine ⟨?_, trivial⟩
  dsimp only
  cases service.engine.load rules with
  | error failure => exact enters_refl service
  | ok loaded => exact enters_refl service

theorem enters_loadStored : loadStored.Respects (Enters []) :=
  (enters_onStore _).bind fun _ => enters_loadRules _

/-- A start changes rules without an entry. -/
theorem enters_start : start.Respects (Enters []) := by
  apply respects_start enters_look
  · intro port
    unfold launchMetrics
    split
    · exact respects_change fun service => enters_refl service
    · exact respects_done _
  · exact enters_onStore _
  · exact enters_onCache _
  · exact fun actor => enters_onStore _
  · exact enters_loadStored

theorem enters_nameRequest (request : Request) : (nameRequest request).Respects (Enters []) := by
  unfold nameRequest
  split
  · exact respects_done _
  · exact fun service => ⟨enters_refl service, trivial⟩

/-- Counting, and then the rest. -/
theorem meter_then_enters {change : Metrics → Metrics} {entries : List Entry}
    {rest : Unit → Job Service α} {outcome : Outcome α}
    (hchange : ∀ metrics : Metrics, metrics.Enters entries (change metrics))
    (hcourse : Course Weather (meter change >>= rest) now outcome left) :
    ∃ mid, Enters entries now mid ∧ Course Weather (rest ()) mid outcome left := by
  rcases bind_course hcourse with ⟨failure, -, hmeter⟩ | ⟨_, mid, hmeter, hrest⟩
  · cases (meter_course hmeter).1
  · obtain ⟨-, rfl⟩ := change_course hmeter
    refine ⟨_, ?_, hrest⟩
    exact hchange now.metrics

/-- Measuring the time of a job enters nothing. -/
theorem timing_enters {scope : String} {job : Job Service α} {outcome : Outcome α}
    (hcourse : Course Weather (timing scope job) now outcome left) :
    ∃ mid, Course Weather job now outcome mid ∧ Enters [] mid left := by
  obtain ⟨inner, mid, hjob, hrest⟩ := attempt_then_course hcourse
  obtain ⟨_, hentered, hdone⟩ :=
    meter_then_enters (Metrics.enters_classificationTime scope) hrest
  obtain ⟨rfl, rfl⟩ := done_course hdone
  exact ⟨mid, hjob, hentered⟩

/-! ### How handling ends -/

/-- How many rules a body says have been seeded. -/
def seeded? (body : Json) : Option Int :=
  match body.field? "seeded" with
  | some (.number (.int count)) => some count
  | _ => none

/-- How the handling of a request can end, with what has been entered by then. `isEnabled`
says whether the cache is in use, and `isLow` whether the rules have low conditions, those
of the table and those that the request brings. -/
inductive Accounts (isEnabled : Bool) (isLow : Prop) (endpoint : Endpoint) :
    List Entry → Outcome Reply → Prop where
  /-- It fails with nothing entered. -/
  | fails (failure : Failure) : Accounts isEnabled isLow endpoint [] (.error failure)
  /-- The engine fails after the cache has had no decision, or keeping the decision does. -/
  | undecided (failure : Failure) (hcounts : endpoint = .classifyCounts) :
      Accounts isEnabled isLow endpoint [.asked false] (.error failure)
  /-- It ends with nothing to enter. -/
  | replies {reply : Reply} (hcode : reply.body.field? "code" = none)
      (hscope : endpoint.scope? = none ∨ reply.status ≠ 200)
      (hoperation : endpoint.operation? = none ∨ ¬ IsSuccess reply.status ∨
        (endpoint = .seedRules ∧ seeded? reply.body = some 0)) :
      Accounts isEnabled isLow endpoint [] (.ok reply)
  /-- A tier has been decided by the engine alone. -/
  | decided {scope : String} {tier : Tier} {body : Json} (hscope : endpoint.scope? = some scope)
      (hother : endpoint ≠ .classifyCounts) (htier : body.field? "tier" = some (.string tier.name))
      (hcode : body.field? "code" = none) (hfinite : body.isFinite = true) :
      Accounts isEnabled isLow endpoint [.decided scope tier.name] (.ok ⟨200, body⟩)
  /-- A tier has been decided with the cache, or with the cache out of use. -/
  | recalled {tier : Tier} {isCached : Bool} {asked : List Entry} {body : Json}
      (hcounts : endpoint = .classifyCounts)
      (hasked : asked = if isEnabled then [.asked isCached] else [])
      (hcached : isEnabled = false → isCached = false)
      (htier : body.field? "tier" = some (.string tier.name))
      (htold : body.field? "cached" = some (.bool isCached))
      (hcode : body.field? "code" = none) (hfinite : body.isFinite = true) :
      Accounts isEnabled isLow endpoint (asked ++ [.decided "counts" tier.name]) (.ok ⟨200, body⟩)
  /-- The rules have been changed. -/
  | changed {operation : String} {reply : Reply}
      (hoperation : endpoint.operation? = some operation) (hstatus : IsSuccess reply.status)
      (hseeded : endpoint = .seedRules → seeded? reply.body ≠ some 0)
      (hcode : reply.body.field? "code" = none) (hfinite : reply.body.isFinite = true) :
      Accounts isEnabled isLow endpoint [.changed operation] (.ok reply)
  /-- The rules have been changed, but the rule is too high to be shown. -/
  | unshown {operation : String} (hoperation : endpoint.operation? = some operation)
      (hendpoint : endpoint = .createRule ∨ endpoint = .updateRule) (hhigh : ¬ isLow) :
      Accounts isEnabled isLow endpoint [.changed operation] (.error .tooHigh)

/-- The handling of a request has entered what accounts for its outcome. -/
def Accounted (now left : Service) (isLow : Prop) (endpoint : Endpoint)
    (outcome : Outcome Reply) : Prop :=
  ∃ entries, Enters entries now left ∧
    Accounts now.config.resultCacheEnabled isLow endpoint entries outcome

variable {isLow : Prop} {outcome : Outcome Reply}

theorem accounted_of_error {failure : Failure} (hentered : Enters [] now left)
    (houtcome : outcome = .error failure) : Accounted now left isLow endpoint outcome :=
  ⟨[], hentered, houtcome ▸ .fails failure⟩

/-- A request with a body is refused, or its body is handled. -/
theorem accounted_withBody {read : ProblemKind → Json → Reading α}
    {handle : α → Job Service Reply}
    (hcourse : Course Weather (withBody read request handle) now outcome left)
    (hvalid : ∀ value, readBody read request = .valid value →
      Course Weather (handle value) now outcome left →
        Accounted now left isLow endpoint outcome) :
    Accounted now left isLow endpoint outcome := by
  rcases withBody_course hcourse with ⟨hrefusal, rfl⟩ | ⟨value, hbody, hcourse⟩
  · cases hrefusal with
    | @refused status hstatus detail =>
        have hfailed : ¬ IsSuccess status := by
          intro hsuccess
          have hrange := hsuccess.2
          omega
        have hother : status ≠ 200 := by omega
        exact ⟨[], enters_refl _, .replies rfl (.inr hother) (.inr (.inl hfailed))⟩
    | unsent => exact accounted_of_error (enters_refl _) rfl
  · exact hvalid value hbody hcourse

/-- A request without an actor fails; with one it goes on. -/
theorem accounted_actorOf {rest : String → Job Service Reply}
    (hcourse : Course Weather (actorOf request >>= rest) now outcome left)
    (hactor : ∀ actor, Course Weather (rest actor) now outcome left →
      Accounted now left isLow endpoint outcome) : Accounted now left isLow endpoint outcome := by
  rcases actorOf_then_course hcourse with ⟨failure, houtcome, rfl⟩ | ⟨actor, -, hcourse⟩
  · exact accounted_of_error (enters_refl _) houtcome
  · exact hactor actor hcourse

/-! ### Classifications -/

/-- How a decision on counts can end, with what has been entered by then. -/
inductive Decides (isEnabled : Bool) : List Entry → Outcome (Tier × Bool) → Prop where
  | fails (failure : Failure) : Decides isEnabled [] (.error failure)
  | undecided (failure : Failure) : Decides isEnabled [.asked false] (.error failure)
  | decides {entries : List Entry} (tier : Tier) (isCached : Bool)
      (hentries : entries = if isEnabled then [.asked isCached] else [])
      (hcached : isEnabled = false → isCached = false) :
      Decides isEnabled entries (.ok (tier, isCached))

/-- The cache is asked once, where it is in use. -/
theorem decideTier_enters {version : String} {counts : Counts} {outcome : Outcome (Tier × Bool)}
    (hcourse : Course Weather (decideTier version counts) now outcome left) :
    ∃ entries, Enters entries now left ∧
      Decides now.config.resultCacheEnabled entries outcome := by
  have hrest := look_then_course hcourse
  dsimp only [id] at hrest
  cases henabled : now.config.resultCacheEnabled with
  | false =>
      rw [if_neg (henabled ▸ Bool.false_ne_true)] at hrest
      rcases enters_then_course (respects_done _) hrest with ⟨failure, rfl, hentered⟩ |
        ⟨tier, mid, hentered, hdone⟩
      · exact ⟨[], hentered, .fails failure⟩
      · obtain ⟨rfl, rfl⟩ := done_course hdone
        exact ⟨[], hentered, .decides tier false rfl fun _ => rfl⟩
  | true =>
      rw [if_pos henabled] at hrest
      rcases enters_then_course (enters_onCache _) hrest with ⟨failure, rfl, hentered⟩ |
        ⟨kept?, got, hgot, hrest⟩
      · exact ⟨[], hentered, .fails failure⟩
      obtain ⟨asked, hasked, hrest⟩ := meter_then_enters (Metrics.enters_cacheLookup _) hrest
      have hentered := hgot.trans hasked
      cases kept? with
      | some tier =>
          obtain ⟨rfl, rfl⟩ := done_course hrest
          exact ⟨_, hentered, .decides tier true rfl nofun⟩
      | none =>
          replace hrest := look_then_course hrest
          rcases enters_then_course (respects_done _) hrest with ⟨failure, rfl, hmore⟩ |
            ⟨tier, classified, hclassified, hrest⟩
          · exact ⟨_, hentered.trans hmore, .undecided failure⟩
          rcases enters_then_course (enters_onCache _) hrest with ⟨failure, rfl, hmore⟩ |
            ⟨_, kept, hkept, hdone⟩
          · exact ⟨_, (hentered.trans hclassified).trans hmore, .undecided failure⟩
          · obtain ⟨rfl, rfl⟩ := done_course hdone
            exact ⟨_, (hentered.trans hclassified).trans hkept, .decides tier false rfl nofun⟩

/-- So it is asked while the time of the decision is measured. -/
theorem timing_decideTier_enters {scope version : String} {counts : Counts}
    {outcome : Outcome (Tier × Bool)}
    (hcourse : Course Weather (timing scope (decideTier version counts)) now outcome left) :
    ∃ entries, Enters entries now left ∧
      Decides now.config.resultCacheEnabled entries outcome := by
  obtain ⟨decided, hdecide, htimed⟩ := timing_enters hcourse
  obtain ⟨entries, hentered, hdecides⟩ := decideTier_enters hdecide
  have hmore := hentered.trans htimed
  rw [List.append_nil] at hmore
  exact ⟨entries, hmore, hdecides⟩

theorem accounted_classifyCounts
    (hcourse : Course Weather (classifyCounts request) now outcome left) :
    Accounted now left isLow .classifyCounts outcome := by
  refine accounted_withBody hcourse fun whole _ hcourse => ?_
  replace hcourse := look_then_course hcourse
  dsimp only at hcourse
  cases hmetrics : now.engine.metrics whole.toCounts with
  | error failure =>
      rw [hmetrics] at hcourse
      obtain ⟨rfl, rfl⟩ := done_course hcourse
      exact accounted_of_error (enters_refl _) rfl
  | ok metrics =>
      rw [hmetrics] at hcourse
      have hfinite := isFinite_metricsJson (WholeCounts.areOf_metrics hmetrics)
      rcases bind_course hcourse with ⟨failure, -, hdone⟩ | ⟨_, _, hdone, hcourse⟩
      · cases (done_course hdone).1
      obtain ⟨hsame, rfl⟩ := done_course hdone
      cases hsame
      rcases bind_course hcourse with ⟨failure, rfl, htiming⟩ |
        ⟨⟨tier, isCached⟩, timed, htiming, hcourse⟩
      · obtain ⟨entries, hentered, hdecides⟩ := timing_decideTier_enters htiming
        cases hdecides with
        | fails => exact ⟨_, hentered, .fails failure⟩
        | undecided => exact ⟨_, hentered, .undecided failure rfl⟩
      · obtain ⟨entries, hentered, hdecides⟩ := timing_decideTier_enters htiming
        obtain ⟨counted, hcounted, hdone⟩ :=
          meter_then_enters (Metrics.enters_classification _ _) hcourse
        obtain ⟨rfl, rfl⟩ := done_course hdone
        cases hdecides with
        | decides _ _ hentries hcached =>
            refine ⟨_, hentered.trans hcounted, .recalled rfl hentries hcached rfl rfl rfl ?_⟩
            simp [Json.isFinite, Json.fieldsAreFinite, hfinite]

theorem accounted_classifyBy {scope : String} {whole : WholeCounts}
    {classify : Engine → Outcome Tier} (hscope : endpoint.scope? = some scope)
    (hother : endpoint ≠ .classifyCounts)
    (hcourse : Course Weather (classifyBy scope whole.toCounts classify) now outcome left) :
    Accounted now left isLow endpoint outcome := by
  replace hcourse := look_then_course hcourse
  have htimed {ended : Outcome Tier} {timed : Service}
      (htiming : Course Weather (timing scope (.done (classify now.engine))) now ended timed) :
      Enters [] now timed := by
    obtain ⟨mid, hdone, htimed⟩ := timing_enters htiming
    obtain ⟨-, rfl⟩ := done_course hdone
    exact htimed
  rcases bind_course hcourse with ⟨failure, rfl, htiming⟩ | ⟨tier, timed, htiming, hcourse⟩
  · exact accounted_of_error (htimed htiming) rfl
  · obtain ⟨counted, hcounted, hdone⟩ :=
      meter_then_enters (Metrics.enters_classification _ _) hcourse
    obtain ⟨rfl, rfl⟩ := done_course hdone
    refine ⟨_, (htimed htiming).trans hcounted, .decided hscope hother rfl rfl ?_⟩
    simp [Json.isFinite, Json.fieldsAreFinite, isFinite_countsJson whole]

/-! ### Changes of the rules -/

/-- The rules of the table have low conditions, and so has what the request brings. -/
def AllLow (service : Service) (request : Request) (endpoint : Endpoint) : Prop :=
  Brings Condition.IsLow request endpoint ∧ ∀ row ∈ service.store.rows, row.IsLow

/-- An action of the store enters nothing, and the rest goes on where it ends well. -/
theorem onStore_then_enters {action : Store.Action β} {rest : β → Job Service α}
    {outcome : Outcome α} (hcourse : Course Weather (onStore action >>= rest) now outcome left) :
    (∃ failure, outcome = .error failure ∧ Enters [] now left) ∨
      ∃ value store mid, store.rows = now.store.rows ∧ action store = (.ok value, mid.store) ∧
        Enters [] now mid ∧ Course Weather (rest value) mid outcome left := by
  rcases bind_course hcourse with ⟨failure, rfl, hact⟩ | ⟨value, mid, hact, hrest⟩
  · exact .inl ⟨failure, rfl, enters_of_course hact (enters_onStore action)⟩
  · obtain ⟨store, hrows, hresult, -⟩ := onStore_course (fun _ _ hturned => hturned) hact
    exact .inr ⟨value, store, mid, hrows, hresult,
      enters_of_course hact (enters_onStore action), hrest⟩

/-- A refresh that ends well has entered the change, and one that fails nothing. -/
theorem refresh_enters {operation : String} {outcome : Outcome Unit}
    (hcourse : Course Weather (refresh operation) now outcome left) :
    (∃ failure, outcome = .error failure ∧ Enters [] now left) ∨
      (outcome = .ok () ∧ Enters [.changed operation] now left) := by
  rcases enters_then_course enters_loadStored hcourse with ⟨failure, rfl, hentered⟩ |
    ⟨_, loaded, hloaded, hcourse⟩
  · exact .inl ⟨failure, rfl, hentered⟩
  rcases enters_then_course (enters_onCache _) hcourse with ⟨failure, rfl, hentered⟩ |
    ⟨_, dropped, hdropped, hmeter⟩
  · exact .inl ⟨failure, rfl, hloaded.trans hentered⟩
  · obtain ⟨hended, rfl⟩ := change_course hmeter
    exact .inr ⟨hended, (hloaded.trans hdropped).trans (Metrics.enters_ruleChange operation _)⟩

/-- A refresh, and the rest where it ends well. -/
theorem refresh_then_enters {operation : String} {rest : Unit → Job Service α}
    {outcome : Outcome α}
    (hcourse : Course Weather (refresh operation >>= rest) now outcome left) :
    (∃ failure, outcome = .error failure ∧ Enters [] now left) ∨
      ∃ mid, Enters [.changed operation] now mid ∧ Course Weather (rest ()) mid outcome left := by
  rcases bind_course hcourse with ⟨failure, rfl, hfirst⟩ | ⟨_, mid, hfirst, hrest⟩
  · rcases refresh_enters hfirst with ⟨_, -, hentered⟩ | ⟨hended, -⟩
    · exact .inl ⟨failure, rfl, hentered⟩
    · cases hended
  · rcases refresh_enters hfirst with ⟨_, hended, -⟩ | ⟨-, hentered⟩
    · cases hended
    · exact .inr ⟨mid, hentered, hrest⟩

/-- After a write the change is entered, and a reply that can be sent follows. -/
theorem accounted_of_success {operation : String} {status : Nat} {body : Json}
    (hoperation : endpoint.operation? = some operation) (hstatus : IsSuccess status)
    (hseeded : endpoint = .seedRules → seeded? body ≠ some 0) (hcode : body.field? "code" = none)
    (hfinite : body.isFinite = true) (hentered : Enters [] now mid)
    (hcourse : Course Weather (refresh operation >>= fun _ => return ⟨status, body⟩) mid outcome
      left) : Accounted now left isLow endpoint outcome := by
  rcases refresh_then_enters hcourse with ⟨failure, rfl, hmore⟩ | ⟨refreshed, hmore, hdone⟩
  · exact accounted_of_error (hentered.trans hmore) rfl
  · obtain ⟨rfl, rfl⟩ := done_course hdone
    exact ⟨_, hentered.trans hmore, .changed hoperation hstatus hseeded hcode hfinite⟩

/-- After a write the change is entered, and then the rule is shown if its conditions are
low. -/
theorem accounted_of_rule {operation : String} {status : Nat} {stored : StoredRule}
    (hoperation : endpoint.operation? = some operation)
    (hendpoint : endpoint = .createRule ∨ endpoint = .updateRule) (hstatus : IsSuccess status)
    (hlow : isLow → Condition.IsLow stored.rule.conditions) (hentered : Enters [] now mid)
    (hcourse : Course Weather (refresh operation >>= fun _ => do
      return ⟨status, ← .done (ruleJson stored)⟩) mid outcome left) :
    Accounted now left isLow endpoint outcome := by
  rcases refresh_then_enters hcourse with ⟨failure, rfl, hmore⟩ | ⟨refreshed, hmore, hcourse⟩
  · exact accounted_of_error (hentered.trans hmore) rfl
  rcases ruleJson_cases stored with ⟨shown, hshown, -, hfinite, hcode⟩ | ⟨hfails, hhigh⟩
  · rw [hshown] at hcourse
    obtain ⟨rfl, rfl⟩ := done_course hcourse
    have hseeded : endpoint = .seedRules → seeded? shown ≠ some 0 := by
      rintro rfl
      rcases hendpoint with h | h <;> cases h
    exact ⟨_, hentered.trans hmore, .changed hoperation hstatus hseeded hcode hfinite⟩
  · rw [hfails] at hcourse
    obtain ⟨rfl, rfl⟩ := done_course hcourse
    exact ⟨_, hentered.trans hmore, .unshown hoperation hendpoint fun h => hhigh (hlow h)⟩

theorem accounted_createRule (hcourse : Course Weather (createRule request) now outcome left) :
    Accounted now left (AllLow now request .createRule) .createRule outcome := by
  refine accounted_withBody hcourse fun draft hbody hcourse => ?_
  refine accounted_actorOf hcourse fun actor hcourse => ?_
  rcases checkRule_course hcourse with ⟨failure, rfl, rfl⟩ | ⟨issues, -, hcourse⟩
  · exact accounted_of_error (enters_refl _) rfl
  rcases onStore_then_enters hcourse with ⟨failure, rfl, hentered⟩ |
    ⟨created, store, mid, -, hresult, hentered, hcourse⟩
  · exact accounted_of_error hentered rfl
  rcases Store.create_cases hresult with ⟨_, hfails, -⟩ | ⟨row, hrow, -, -, -, hcreated⟩
  · cases hfails
  refine accounted_of_rule rfl (.inl rfl) ⟨by decide, by decide⟩ ?_ hentered hcourse
  intro hlow
  obtain ⟨_, _, hread⟩ := valid_of_readBody hbody
  have hfits := RuleDraft.fits_of_read hread
  exact (hrow.isLow (by decide) hfits (hlow.1 draft hbody)).rule hcreated.symm

theorem accounted_updateRule
    (hcourse : Course Weather (updateRule ruleId request) now outcome left) :
    Accounted now left (AllLow now request .updateRule) .updateRule outcome := by
  refine accounted_withBody hcourse fun change hbody hcourse => ?_
  refine accounted_actorOf hcourse fun actor hcourse => ?_
  rcases onStore_then_enters hcourse with ⟨failure, rfl, hentered⟩ |
    ⟨existing?, store, asked, hrows, hget, hasked, hcourse⟩
  · exact accounted_of_error hentered rfl
  have hsame : asked.store.rows = now.store.rows := by
    have hkept := Store.keepsRows_get ruleId store
    rw [hget] at hkept
    exact hkept.trans hrows
  cases existing? with
  | none =>
      obtain ⟨rfl, rfl⟩ := done_course hcourse
      exact accounted_of_error hasked rfl
  | some existing =>
      rcases checkRule_course hcourse with ⟨failure, rfl, rfl⟩ | ⟨issues, -, hcourse⟩
      · exact accounted_of_error hasked rfl
      rcases onStore_then_enters hcourse with ⟨failure, rfl, hentered⟩ |
        ⟨updated, store', mid, hrows', hresult, hentered, hcourse⟩
      · exact accounted_of_error (hasked.trans hentered) rfl
      rcases Store.update_cases hresult with ⟨_, hfails, -⟩ | ⟨row, instant, hfound, -, -, hupdated⟩
      · cases hfails
      refine accounted_of_rule rfl (.inr rfl) ⟨by decide, by decide⟩ ?_ (hasked.trans hentered)
        hcourse
      intro hlow
      obtain ⟨_, _, hread⟩ := valid_of_readBody hbody
      rw [hrows', hsame] at hfound
      have hrow := hlow.2 row (List.mem_of_find?_eq_some hfound)
      have hwritten := hrow.updated (RuleChange.fits_of_read hread) (hlow.1 change hbody)
      have hstamped : ((row.updated change.toUpdate).stamped (some actor) instant).IsLow :=
        hwritten.congr rfl
      exact hstamped.rule hupdated.symm

theorem accounted_deleteRule
    (hcourse : Course Weather (deleteRule ruleId request) now outcome left) :
    Accounted now left isLow .deleteRule outcome := by
  refine accounted_actorOf hcourse fun actor hcourse => ?_
  rcases onStore_then_enters hcourse with ⟨failure, rfl, hentered⟩ |
    ⟨_, store, mid, -, -, hentered, hcourse⟩
  · exact accounted_of_error hentered rfl
  · exact accounted_of_success rfl ⟨by decide, by decide⟩ nofun rfl rfl hentered hcourse

theorem accounted_reorderRules
    (hcourse : Course Weather (reorderRules request) now outcome left) :
    Accounted now left isLow .reorderRules outcome := by
  refine accounted_withBody hcourse fun placements _ hcourse => ?_
  refine accounted_actorOf hcourse fun actor hcourse => ?_
  rcases onStore_then_enters hcourse with ⟨failure, rfl, hentered⟩ |
    ⟨_, store, mid, -, -, hentered, hcourse⟩
  · exact accounted_of_error hentered rfl
  · exact accounted_of_success rfl ⟨by decide, by decide⟩ nofun rfl rfl hentered hcourse

/-- Rules with low conditions are all shown. -/
theorem mapM_ruleJson {rules : List StoredRule}
    (hlow : ∀ stored ∈ rules, Condition.IsLow stored.rule.conditions) :
    ∃ shown, rules.mapM ruleJson = .ok shown ∧ Json.areFinite shown = true := by
  induction rules with
  | nil => exact ⟨[], rfl, by rw [Json.areFinite]⟩
  | cons stored rest ih =>
      rw [List.forall_mem_cons] at hlow
      obtain ⟨others, hothers, hfinite⟩ := ih hlow.2
      rcases ruleJson_cases stored with ⟨shown, hshown, -, hfirst, -⟩ | ⟨-, hhigh⟩
      · refine ⟨shown :: others, ?_, ?_⟩
        · rw [List.mapM_cons, hshown, hothers]
          rfl
        · rw [Json.areFinite, hfirst, hfinite]
          rfl
      · exact absurd hlow.1 hhigh

/-- Seeding is entered if it has seeded rules; these are always shown. -/
theorem accounted_seedRules
    (hcourse : Course Weather (seedRules request) now outcome left) :
    Accounted now left isLow .seedRules outcome := by
  refine accounted_actorOf hcourse fun actor hcourse => ?_
  rcases onStore_then_enters hcourse with ⟨failure, rfl, hentered⟩ |
    ⟨created, store, mid, -, hresult, hentered, hcourse⟩
  · exact accounted_of_error hentered rfl
  rcases Store.seed_cases hresult with ⟨hnone | ⟨_, hfails⟩, -⟩ |
    ⟨_, number, seeded, hcreated, hsome, -, -, hgiven, hseeded⟩
  · cases hnone
    obtain ⟨rfl, rfl⟩ := done_course hcourse
    exact ⟨[], hentered, .replies rfl (.inl rfl) (.inr (.inr ⟨rfl, rfl⟩))⟩
  · cases hfails
  · cases hcreated
    have hlow : ∀ stored ∈ created, Condition.IsLow stored.rule.conditions := by
      intro stored hmem
      obtain ⟨row, hrow, htold⟩ := exists_of_mem_forall₂ (forall₂_of_mapM hgiven) hmem
      exact (Seed.isLow_of_mem hseeded row hrow).rule htold
    obtain ⟨shown, hshown, hfinite⟩ := mapM_ruleJson hlow
    have hrefresh : (!created.isEmpty) = true := by
      rw [Bool.not_eq_true', List.isEmpty_eq_false_iff]
      exact hsome
    dsimp only at hcourse
    rw [if_pos hrefresh, hshown] at hcourse
    refine accounted_of_success rfl ⟨by decide, by decide⟩ ?_ rfl ?_ hentered hcourse
    · intro _ hzero
      have hlength : (created.length : Int) = 0 := Option.some.inj hzero
      exact hsome (List.eq_nil_of_length_eq_zero (Int.ofNat_eq_zero.mp hlength))
    · simp [Json.isFinite, Json.fieldsAreFinite, Json.ofInt, hfinite]

/-! ### Requests that enter nothing -/

/-- The course of a request that enters nothing. -/
def tacit : Outline Service Unit where
  known _ := True
  think _ service _ left := Enters [] service left
  ask _ service _ left := Enters [] service left

/-- A reply has no code, which only errors have. -/
def Uncoded (outcome : Outcome Reply) : Prop :=
  ∀ reply, outcome = .ok reply → reply.body.field? "code" = none

theorem uncoded_error (failure : Failure) : Uncoded (.error failure) :=
  nofun

theorem uncoded_reply {status : Nat} {body : Json} (hcode : body.field? "code" = none) :
    Uncoded (.ok ⟨status, body⟩) := by
  rintro _ ⟨⟩
  exact hcode

/-- A first part that enters nothing, and the rest. -/
theorem tacit_then {job : Job Service β} {rest : β → Job Service Reply}
    (hjob : job.Respects (Enters []))
    (hrest : ∀ value, (rest value).Follows tacit (fun _ => Uncoded) ()) :
    (job >>= rest).Follows tacit (fun _ => Uncoded) () :=
  hjob.bind_follows (fun _ _ h => h) (fun _ _ h => h) hrest uncoded_error

theorem tacit_withBody {read : ProblemKind → Json → Reading β} {handle : β → Job Service Reply}
    (hhandle : ∀ value, (handle value).Follows tacit (fun _ => Uncoded) ()) :
    (withBody read request handle).Follows tacit (fun _ => Uncoded) () := by
  rcases withBody_cases read request handle with ⟨value, -, hhandled⟩ |
    ⟨refusal, hrefusal, hrefused⟩
  · exact hhandled ▸ hhandle value
  · rw [hrefused]
    cases hrefusal with
    | refused _ detail => exact uncoded_reply rfl
    | unsent => exact uncoded_error _

theorem tacit_health : health.Follows tacit (fun _ => Uncoded) () := by
  have hdependencies : dependencies.Respects (Enters []) := by
    refine (enters_look _).bind fun role => ?_
    cases role with
    | bare => exact respects_done _
    | classification =>
        exact (enters_onCache _).bind fun _ => (enters_onStore _).bind fun _ => respects_done _
  refine tacit_then (enters_look _) fun name => ?_
  refine tacit_then hdependencies.attempt fun outcome => ?_
  cases outcome with
  | ok states =>
      exact tacit_then (enters_meter (Metrics.enters_healthCheck _)) fun _ => uncoded_reply rfl
  | error cause =>
      exact tacit_then (enters_meter (Metrics.enters_healthCheck _)) fun _ => uncoded_reply rfl

theorem tacit_stats : stats.Follows tacit (fun _ => Uncoded) () := by
  refine tacit_then (enters_look _) fun engine => ?_
  refine tacit_then (enters_onCache _) fun cache => ?_
  refine tacit_then (enters_look _) fun isConnected => ?_
  dsimp only
  split
  · exact tacit_then (enters_onStore _) fun _ => uncoded_reply rfl
  · exact tacit_then (respects_done _) fun _ => uncoded_reply rfl

theorem tacit_listRules : listRules.Follows tacit (fun _ => Uncoded) () := by
  refine tacit_then (enters_onStore _) fun rules => ?_
  refine tacit_then (enters_look _) fun version => ?_
  exact tacit_then (respects_done _) fun _ => uncoded_reply rfl

theorem tacit_dashboard : (dashboard request).Follows tacit (fun _ => Uncoded) () := by
  refine tacit_withBody fun query => tacit_then (enters_look _) fun engine => ?_
  refine tacit_then ?_ fun reports => uncoded_reply rfl
  exact respects_timing (enters_meter (Metrics.enters_classificationTime _)) (respects_done _)

/-- The handling of a request that neither classifies counts, ratings or tiers nor changes
rules enters nothing. -/
theorem tacit_handle (hscope : endpoint.scope? = none) (hoperation : endpoint.operation? = none) :
    (handle endpoint ruleId request).Follows tacit (fun _ => Uncoded) () := by
  cases endpoint with
  | welcome => exact uncoded_reply rfl
  | health => exact tacit_health
  | metrics => exact tacit_then (enters_look _) fun _ => uncoded_reply rfl
  | documentation => exact uncoded_reply rfl
  | listRules => exact tacit_listRules
  | validateRules =>
      exact tacit_withBody fun _ => tacit_then (respects_done _) fun _ => uncoded_reply rfl
  | dashboard => exact tacit_dashboard
  | stats => exact tacit_stats
  | classifyCounts | classifySkill | classifyCategory => cases hscope
  | createRule | updateRule | deleteRule | reorderRules | seedRules => cases hoperation

/-- A course that enters nothing ends with nothing entered. -/
theorem accounted_of_tacit (hscope : endpoint.scope? = none)
    (hoperation : endpoint.operation? = none)
    (hcourse : Course Weather (handle endpoint ruleId request) now outcome left) :
    Accounted now left isLow endpoint outcome := by
  let invariant : Unit → Service → Prop := fun _ service => Enters [] now service
  have hmore (stage later : Unit) (service changed : Service) (hkept : invariant stage service)
      (hmove : Enters [] service changed) : invariant later changed :=
    Enters.trans hkept hmove
  have hends : ∃ later, Uncoded outcome ∧ invariant later left :=
    hcourse.follows (fun _ _ _ => trivial)
      (fun stage service turned hturned hkept =>
        hmore stage stage service turned hkept (enters_of_weather hturned))
      (fun stage service later => hmore stage later service)
      (fun stage service later => hmore stage later service)
      (tacit_handle hscope hoperation) (enters_refl now)
  obtain ⟨_, huncoded, hentered⟩ := hends
  cases outcome with
  | error failure => exact accounted_of_error hentered rfl
  | ok reply => exact ⟨[], hentered, .replies (huncoded reply rfl) (.inl hscope) (.inl hoperation)⟩

/-- Every request enters what accounts for the outcome of its handling, whatever calls fail
on it. -/
theorem handle_accounts
    (hcourse : Course Weather (handle endpoint ruleId request) now outcome left) :
    Accounted now left (AllLow now request endpoint) endpoint outcome := by
  cases endpoint with
  | createRule => exact accounted_createRule hcourse
  | updateRule => exact accounted_updateRule hcourse
  | deleteRule => exact accounted_deleteRule hcourse
  | reorderRules => exact accounted_reorderRules hcourse
  | seedRules => exact accounted_seedRules hcourse
  | classifyCounts => exact accounted_classifyCounts hcourse
  | classifySkill =>
      refine accounted_withBody hcourse fun skill _ hcourse => ?_
      dsimp only at hcourse
      rw [SkillRatings.ofRatings_eq] at hcourse
      exact accounted_classifyBy rfl nofun hcourse
  | classifyCategory =>
      refine accounted_withBody hcourse fun tiers _ hcourse => ?_
      dsimp only at hcourse
      rw [Tier.ofTiers_eq] at hcourse
      exact accounted_classifyBy rfl nofun hcourse
  | _ => exact accounted_of_tacit rfl rfl hcourse

end Service

end SkillTiers
