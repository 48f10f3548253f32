/-
# What an answer says of what has been counted

The handling of a request ends with a reply or a failure, and it is closed by sending the
one or reporting the other (`Closes`). So an exchange, a request with its response, tells
what has been entered for it: `Exchange.Explains` reads it off the status and the body, and
`Exchange.explained` shows that every exchange has entered just that. A change of the rules
is the exception. It is entered before it is shown, and so an answer that reports a failure
can stand for one, if the rule is too high to be shown.
-/

import SkillTiers.Proofs.Service.Entering

namespace SkillTiers

/-- The code under which the answer to a failure reports it. -/
def Failure.code : Failure → String
  | .service error => error.code
  | _ => Service.internalError

/-- An endpoint that classifies changes no rules. -/
theorem Endpoint.operation?_of_scope? {endpoint : Endpoint} {scope : String}
    (hscope : endpoint.scope? = some scope) : endpoint.operation? = none := by
  cases endpoint with
  | classifyCounts | classifySkill | classifyCategory => rfl
  | _ => cases hscope

/-- The text under a key of the body. -/
def Response.text? (response : Response) (key : String) : Option String :=
  (response.body.field? key).bind Json.string?

namespace Service

open Job Renewal

variable {now left : Service} {request : Request} {response : Response} {endpoint : Endpoint}
  {ruleId : String}

/-! ### Answers -/

/-- What is entered in the end: nothing where the response sends the reply, and the failure
where it reports one. -/
inductive Closes (response : Response) : List Entry → Outcome Reply → Prop where
  | sends {reply : Reply} (hstatus : response.status = reply.status)
      (hbody : response.body = reply.body) : Closes response [] (.ok reply)
  | reports {failure : Failure} (hstatus : response.status = failure.status)
      (hcode : response.text? "code" = some failure.code) :
      Closes response [.failed failure.code] (.error failure)

/-- The reply is sent, and nothing is entered for that. -/
theorem respond_enters {id : String} {reply : Reply} {outcome : Outcome Response}
    (hcourse : Course Weather (respond request id reply) now outcome left) :
    (∃ response, outcome = .ok response ∧ response.status = reply.status ∧
      response.body = reply.body) ∧ Enters [] now left := by
  obtain ⟨mid, hentered, hdone⟩ := meter_then_enters (Metrics.enters_httpRequest _ _ _) hcourse
  obtain ⟨rfl, rfl⟩ := done_course hdone
  exact ⟨⟨_, rfl, rfl, rfl⟩, hentered⟩

/-- Failures other than service errors are entered as internal errors, and reported so. -/
theorem closes_of_unexpected {failure : Failure} {outcome : Outcome Response}
    (hstatus : failure.status = 500) (hcode : failure.code = internalError)
    (hcourse : Course Weather (meter (.error internalError none) >>= fun _ =>
      (return unexpected : Job Service Response)) now outcome left) :
    ∃ response entries, outcome = .ok response ∧ Enters entries now left ∧
      Closes response entries (.error failure) := by
  obtain ⟨mid, hfailed, hrest⟩ := meter_then_enters (Metrics.enters_error _) hcourse
  obtain ⟨rfl, rfl⟩ := done_course hrest
  have htold : unexpected.text? "code" = some failure.code := by
    rw [hcode]
    rfl
  rw [← hcode] at hfailed
  exact ⟨unexpected, _, rfl, hfailed, .reports hstatus.symm htold⟩

/-- The outcome of the handling is sent or reported. -/
theorem closing_closes {id : String} {inner : Outcome Reply} {outcome : Outcome Response}
    (hcourse : Course Weather (closing request id inner) now outcome left) :
    ∃ response entries, outcome = .ok response ∧ Enters entries now left ∧
      Closes response entries inner := by
  cases inner with
  | ok reply =>
      obtain ⟨⟨response, rfl, hstatus, hbody⟩, hentered⟩ := respond_enters hcourse
      exact ⟨response, [], rfl, hentered, .sends hstatus hbody⟩
  | error failure =>
      cases failure with
      | service error =>
          obtain ⟨mid, hfailed, hrest⟩ := meter_then_enters (Metrics.enters_error _) hcourse
          obtain ⟨⟨response, rfl, hstatus, hbody⟩, hentered⟩ := respond_enters hrest
          have hcode : response.text? "code" = some (Failure.service error).code := by
            unfold Response.text?
            rw [hbody]
            rfl
          exact ⟨response, _, rfl, hfailed.trans hentered, .reports hstatus hcode⟩
      | _ => exact closes_of_unexpected rfl rfl hcourse

/-- What a request enters: what accounts for the outcome of its handling, and the failure
that is reported. A request that leads nowhere enters nothing. -/
theorem answer_enters (hcourse : Course Weather (answer request) now (.ok response) left) :
    (Enters [] now left ∧ 300 ≤ response.status ∧ response.body.field? "code" = none) ∨
      ∃ endpoint ruleId outcome made closing,
        destinationOf now request = .endpoint endpoint ruleId ∧
        Enters (made ++ closing) now left ∧
        Accounts now.config.resultCacheEnabled (AllLow now request endpoint) endpoint made
          outcome ∧
        Closes response closing (outcome.bind checkFinite) := by
  rw [answer_eq] at hcourse
  rcases bind_course hcourse with ⟨failure, hfails, -⟩ | ⟨id, begun, hname, hcourse⟩
  · cases hfails
  have hbegun := enters_of_course hname (enters_nameRequest request)
  obtain ⟨-, hquiet⟩ := nameRequest_course hname
  obtain ⟨inner, handled, hdispatch, hcourse⟩ := attempt_then_course hcourse
  obtain ⟨_, closing, hended, hclosing, hcloses⟩ := closing_closes hcourse
  cases hended
  rcases dispatch_course hdispatch with ⟨-, rfl, reply, rfl, hstatus, hcode⟩ |
    ⟨endpoint, ruleId, outcome, hleads, hhandle, rfl⟩
  · cases hcloses with
    | sends hsame hbody =>
        rw [← hsame] at hstatus
        rw [← hbody] at hcode
        exact .inl ⟨hbegun.trans hclosing, hstatus, hcode⟩
  · obtain ⟨made, hmade, haccounts⟩ := handle_accounts hhandle
    have hlow : AllLow begun request endpoint = AllLow now request endpoint := by
      unfold AllLow
      rw [hquiet.rows]
    rw [hquiet.config, hlow] at haccounts
    rw [hquiet.destinationOf] at hleads
    exact .inr ⟨endpoint, ruleId, outcome, made, closing, hleads,
      (hbegun.trans hmade).trans hclosing, haccounts, hcloses⟩

/-! ### Exchanges -/

/-- A request with the response to it, and the service before and after. -/
structure Exchange where
  now : Service
  request : Request
  response : Response
  left : Service

namespace Exchange

/-- The endpoint that the request leads to. -/
def endpoint? (exchange : Exchange) : Option Endpoint :=
  match destinationOf exchange.now exchange.request with
  | .endpoint endpoint _ => some endpoint
  | _ => none

/-- The answer tells a tier in a scope. -/
def tells (scope tier : String) (exchange : Exchange) : Bool :=
  exchange.endpoint?.bind Endpoint.scope? == some scope && exchange.response.status == 200
    && exchange.response.text? "tier" == some tier

/-- What an answer that tells the tier of counts says of whether it comes from the cache. -/
def cached? (exchange : Exchange) : Option Bool :=
  if exchange.endpoint? = some .classifyCounts ∧ exchange.response.status = 200 then
    match exchange.response.body.field? "cached" with
    | some (.bool isCached) => some isCached
    | _ => none
  else none

/-- The answer reports that the rules have been changed by an operation. Seeding that seeds
nothing is no change. -/
def changes (operation : String) (exchange : Exchange) : Bool :=
  exchange.endpoint?.bind Endpoint.operation? == some operation
    && decide (200 ≤ exchange.response.status) && decide (exchange.response.status < 300)
    && !(exchange.endpoint? == some .seedRules && seeded? exchange.response.body == some 0)

/-- The answer reports an error with a code. -/
def reports (code : String) (exchange : Exchange) : Bool :=
  exchange.response.text? "code" == some code

/-- The rules have low conditions, those of the table and those that the request brings. -/
def IsLow (exchange : Exchange) : Prop :=
  ∀ endpoint ∈ exchange.endpoint?, AllLow exchange.now exchange.request endpoint

/-- What has been entered is what the answer says, but for changes of rules that are too
high, and for look-ups in vain whose request has failed. -/
structure Explains (exchange : Exchange) (entries : List Entry) : Prop where
  tells : ∀ scope tier,
    entries.count (.decided scope tier) = if exchange.tells scope tier then 1 else 0
  cached : entries.count (.asked true) = if exchange.cached? == some true then 1 else 0
  uncached : exchange.cached? = some false → exchange.now.config.resultCacheEnabled = true →
    entries.count (.asked false) = 1
  changes_le : ∀ operation,
    (if exchange.changes operation then 1 else 0) ≤ entries.count (.changed operation)
  changes : ∀ operation, (operation = "create" ∨ operation = "update" → exchange.IsLow) →
    entries.count (.changed operation) = if exchange.changes operation then 1 else 0
  reports : ∀ code, entries.count (.failed code) = if exchange.reports code then 1 else 0

variable {exchange : Exchange} {entries made : List Entry}

theorem tells_eq_false (hstatus : exchange.response.status ≠ 200) (scope tier : String) :
    exchange.tells scope tier = false := by
  simp [tells, hstatus]

theorem cached?_eq_none (hstatus : exchange.response.status ≠ 200) :
    exchange.cached? = none := by
  simp [cached?, hstatus]

theorem changes_eq_false (hstatus : ¬ IsSuccess exchange.response.status) (operation : String) :
    exchange.changes operation = false := by
  unfold IsSuccess at hstatus
  by_cases hlow : 200 ≤ exchange.response.status
  · have hhigh : ¬ exchange.response.status < 300 := fun h => hstatus ⟨hlow, h⟩
    simp [changes, hhigh]
  · simp [changes, hlow]

theorem reports_eq_false (hcode : exchange.response.body.field? "code" = none) (code : String) :
    exchange.reports code = false := by
  simp [reports, Response.text?, hcode]

theorem endpoint?_eq (hleads : destinationOf exchange.now exchange.request =
    .endpoint endpoint ruleId) : exchange.endpoint? = some endpoint := by
  unfold endpoint?
  rw [hleads]

/-- An answer with nothing to enter. -/
theorem explains_nil (htells : ∀ scope tier, exchange.tells scope tier = false)
    (hcached : exchange.cached? = none) (hchanges : ∀ operation, exchange.changes operation = false)
    (hreports : ∀ code, exchange.reports code = false) : exchange.Explains [] where
  tells scope tier := by rw [htells]; rfl
  cached := by rw [hcached]; rfl
  uncached h := by rw [hcached] at h; cases h
  changes_le operation := by rw [hchanges]; exact Nat.le_refl 0
  changes operation _ := by rw [hchanges]; rfl
  reports code := by rw [hreports]; rfl

/-- An answer that reports a failure. -/
theorem explains_failure {code : String} (hstatus : 300 ≤ exchange.response.status)
    (hcode : exchange.response.text? "code" = some code)
    (hdecided : ∀ scope tier, made.count (.decided scope tier) = 0)
    (hasked : made.count (.asked true) = 0)
    (hchanged : ∀ operation, (operation = "create" ∨ operation = "update" → exchange.IsLow) →
      made.count (.changed operation) = 0)
    (hfailed : ∀ code, made.count (.failed code) = 0) :
    exchange.Explains (made ++ [.failed code]) := by
  have hother : exchange.response.status ≠ 200 := by omega
  have hfails : ¬ IsSuccess exchange.response.status := fun h => Nat.not_lt.mpr hstatus h.2
  constructor
  · intro scope tier
    rw [tells_eq_false hother, List.count_append, hdecided]
    simp
  · rw [cached?_eq_none hother, List.count_append, hasked]
    simp
  · intro h
    rw [cached?_eq_none hother] at h
    cases h
  · intro operation
    rw [changes_eq_false hfails]
    exact Nat.zero_le _
  · intro operation hlow
    rw [changes_eq_false hfails, List.count_append, hchanged operation hlow]
    simp
  · intro other
    rw [List.count_append, hfailed]
    by_cases hsame : code = other
    · simp [reports, hcode, hsame]
    · simp [reports, hcode, hsame]

/-- An answer of an endpoint that has nothing to enter for it. -/
theorem explains_reply (hendpoint : exchange.endpoint? = some endpoint)
    (hscope : endpoint.scope? = none ∨ exchange.response.status ≠ 200)
    (hoperation : endpoint.operation? = none ∨ ¬ IsSuccess exchange.response.status ∨
      (endpoint = .seedRules ∧ seeded? exchange.response.body = some 0))
    (hcode : exchange.response.body.field? "code" = none) : exchange.Explains [] := by
  apply explains_nil _ _ _ (reports_eq_false hcode)
  · intro scope tier
    rcases hscope with hnone | hstatus
    · simp [Exchange.tells, hendpoint, hnone]
    · exact tells_eq_false hstatus scope tier
  · rcases hscope with hnone | hstatus
    · have hother : endpoint ≠ .classifyCounts := by
        rintro rfl
        cases hnone
      simp [cached?, hendpoint, hother]
    · exact cached?_eq_none hstatus
  · intro operation
    rcases hoperation with hnone | hstatus | ⟨rfl, hzero⟩
    · simp [Exchange.changes, hendpoint, hnone]
    · exact changes_eq_false hstatus operation
    · simp [Exchange.changes, hendpoint, hzero]

/-- An answer that tells a tier, after the cache has been asked or not. -/
theorem explains_tier {scope : String} {tier : Tier} {asked : List Entry}
    (hendpoint : exchange.endpoint? = some endpoint) (hscope : endpoint.scope? = some scope)
    (hstatus : exchange.response.status = 200)
    (htier : exchange.response.text? "tier" = some tier.name)
    (hcode : exchange.response.body.field? "code" = none)
    (hasked : ∀ entry ∈ asked, ∃ isFound, entry = .asked isFound)
    (hcached : asked.count (.asked true) = if exchange.cached? == some true then 1 else 0)
    (huncached : exchange.cached? = some false → exchange.now.config.resultCacheEnabled = true →
      asked.count (.asked false) = 1) :
    exchange.Explains (asked ++ [.decided scope tier.name]) := by
  have hnone {entry : Entry} (hentry : ∀ isFound, entry ≠ .asked isFound) :
      asked.count entry = 0 := by
    apply List.count_eq_zero_of_not_mem
    intro hmem
    obtain ⟨isFound, hfound⟩ := hasked entry hmem
    exact hentry isFound hfound
  have hdecided (scope' tier' : String) : asked.count (.decided scope' tier') = 0 :=
    hnone (by simp)
  have hchanged (operation : String) : asked.count (.changed operation) = 0 := hnone (by simp)
  have hfailed (code : String) : asked.count (.failed code) = 0 := hnone (by simp)
  have hchanges (operation : String) : exchange.changes operation = false := by
    simp [Exchange.changes, hendpoint, Endpoint.operation?_of_scope? hscope]
  constructor
  · intro scope' tier'
    rw [List.count_append, hdecided]
    by_cases hsame : scope = scope'
    · by_cases htiers : tier.name = tier'
      · simp [Exchange.tells, hendpoint, hscope, hstatus, htier, hsame, htiers]
      · simp [Exchange.tells, hendpoint, hscope, hstatus, htier, hsame, htiers]
    · simp [Exchange.tells, hendpoint, hscope, hsame]
  · rw [List.count_append, hcached]
    rfl
  · intro hsaid henabled
    rw [List.count_append, huncached hsaid henabled]
    rfl
  · intro operation
    rw [hchanges]
    exact Nat.zero_le _
  · intro operation _
    rw [hchanges, List.count_append, hchanged]
    rfl
  · intro code
    rw [reports_eq_false hcode, List.count_append, hfailed]
    rfl

/-- An answer that reports a change of the rules. -/
theorem explains_changed {operation : String} (hendpoint : exchange.endpoint? = some endpoint)
    (hoperation : endpoint.operation? = some operation)
    (hstatus : IsSuccess exchange.response.status)
    (hseeded : endpoint = .seedRules → seeded? exchange.response.body ≠ some 0)
    (hcode : exchange.response.body.field? "code" = none) :
    exchange.Explains [.changed operation] := by
  have hscope : endpoint.scope? = none := by
    cases htier : endpoint.scope? with
    | none => rfl
    | some scope =>
        rw [Endpoint.operation?_of_scope? htier] at hoperation
        cases hoperation
  have hcached : exchange.cached? = none := by
    have hother : endpoint ≠ .classifyCounts := by
      rintro rfl
      cases hscope
    simp [Exchange.cached?, hendpoint, hother]
  have hchanges (other : String) : exchange.changes other = decide (operation = other) := by
    have hsome : (endpoint == .seedRules && seeded? exchange.response.body == some 0) = false := by
      by_cases hseeds : endpoint = .seedRules
      · simp [hseeds, hseeded hseeds]
      · simp [hseeds]
    by_cases hsame : operation = other
    · simp [Exchange.changes, hendpoint, hoperation, hsame, hstatus.1, hstatus.2, hsome]
    · simp [Exchange.changes, hendpoint, hoperation, hsame]
  have hcount (other : String) : [Entry.changed operation].count (.changed other) =
      if exchange.changes other then 1 else 0 := by
    by_cases hsame : operation = other
    · simp [hchanges, hsame]
    · simp [hchanges, hsame]
  constructor
  · intro scope tier
    simp [Exchange.tells, hendpoint, hscope]
  · rw [hcached]
    rfl
  · intro h
    rw [hcached] at h
    cases h
  · intro other
    rw [hcount]
  · intro other _
    exact hcount other
  · intro code
    rw [reports_eq_false hcode]
    rfl

/-- An answer that tells the tier of counts. -/
theorem explains_recalled {tier : Tier} {isCached : Bool} {asked : List Entry}
    (hendpoint : exchange.endpoint? = some .classifyCounts)
    (hstatus : exchange.response.status = 200)
    (hasked : asked = if exchange.now.config.resultCacheEnabled then [.asked isCached] else [])
    (hcached : exchange.now.config.resultCacheEnabled = false → isCached = false)
    (htier : exchange.response.text? "tier" = some tier.name)
    (htold : exchange.response.body.field? "cached" = some (.bool isCached))
    (hcode : exchange.response.body.field? "code" = none) :
    exchange.Explains (asked ++ [.decided "counts" tier.name]) := by
  have hsaid : exchange.cached? = some isCached := by
    unfold cached?
    rw [if_pos ⟨hendpoint, hstatus⟩, htold]
  apply explains_tier hendpoint rfl hstatus htier hcode
  · intro entry hmem
    rw [hasked] at hmem
    split at hmem
    · exact ⟨isCached, List.mem_singleton.mp hmem⟩
    · cases hmem
  · rw [hasked, hsaid]
    cases henabled : exchange.now.config.resultCacheEnabled with
    | true => cases isCached <;> rfl
    | false =>
        rw [hcached henabled]
        rfl
  · intro hmissed henabled
    rw [hsaid] at hmissed
    cases hmissed
    rw [hasked, if_pos henabled]
    rfl

/-- What accounts for a reply is what the answer says that sends it. -/
theorem explains_sent {reply : Reply} {isLow : Prop}
    (hendpoint : exchange.endpoint? = some endpoint)
    (haccounts : Accounts exchange.now.config.resultCacheEnabled isLow endpoint made (.ok reply))
    (hstatus : exchange.response.status = reply.status)
    (hbody : exchange.response.body = reply.body) : exchange.Explains made := by
  have htext {key text : String} (hfield : reply.body.field? key = some (.string text)) :
      exchange.response.text? key = some text := by
    unfold Response.text?
    rw [hbody, hfield]
    rfl
  cases haccounts with
  | replies hcode hscope hoperation =>
      apply explains_reply hendpoint
      · rw [hstatus]
        exact hscope
      · rw [hstatus, hbody]
        exact hoperation
      · rw [hbody]
        exact hcode
  | @decided scope tier body hscope hother htier hcode hfinite =>
      have hcached : exchange.cached? = none := by simp [cached?, hendpoint, hother]
      rw [← List.nil_append [Entry.decided scope tier.name]]
      apply explains_tier hendpoint hscope hstatus (htext htier)
      · rw [hbody]
        exact hcode
      · exact List.forall_mem_nil _
      · rw [hcached]
        rfl
      · rw [hcached]
        nofun
  | recalled hcounts hasked hcached htier htold hcode hfinite =>
      rw [hcounts] at hendpoint
      apply explains_recalled hendpoint hstatus hasked hcached (htext htier)
      · rw [hbody]
        exact htold
      · rw [hbody]
        exact hcode
  | changed hoperation hsuccess hseeded hcode hfinite =>
      apply explains_changed hendpoint hoperation
      · rw [hstatus]
        exact hsuccess
      · rw [hbody]
        exact hseeded
      · rw [hbody]
        exact hcode

/-- What accounts for a failure, with its report, is what the answer says. -/
theorem explains_reported {failure : Failure}
    (hendpoint : exchange.endpoint? = some endpoint)
    (haccounts : Accounts exchange.now.config.resultCacheEnabled
      (AllLow exchange.now exchange.request endpoint) endpoint made (.error failure))
    (hstatus : exchange.response.status = failure.status)
    (hcode : exchange.response.text? "code" = some failure.code) :
    exchange.Explains (made ++ [.failed failure.code]) := by
  have hsevere : 300 ≤ exchange.response.status := hstatus ▸ failure.le_status
  cases haccounts with
  | fails =>
      apply explains_failure hsevere hcode
      all_goals simp
  | undecided =>
      apply explains_failure hsevere hcode
      all_goals simp
  | @unshown operation hoperation hwritten hhigh =>
      have hnamed : operation = "create" ∨ operation = "update" := by
        rcases hwritten with rfl | rfl
        · exact .inl (Option.some.inj hoperation).symm
        · exact .inr (Option.some.inj hoperation).symm
      apply explains_failure hsevere hcode
      · simp
      · simp
      · intro other hlow
        have hother : operation ≠ other := by
          rintro rfl
          exact hhigh (hlow hnamed endpoint hendpoint)
        simp [hother]
      · simp

/-- What accounts for the outcome of the handling, with the report of a failure, is what
the answer says. -/
theorem explains_of_accounts {outcome : Outcome Reply} {closing : List Entry}
    (hendpoint : exchange.endpoint? = some endpoint)
    (haccounts : Accounts exchange.now.config.resultCacheEnabled
      (AllLow exchange.now exchange.request endpoint) endpoint made outcome)
    (hcloses : Closes exchange.response closing (outcome.bind checkFinite)) :
    exchange.Explains (made ++ closing) := by
  cases outcome with
  | error failure =>
      cases hcloses with
      | reports hstatus hcode => exact explains_reported hendpoint haccounts hstatus hcode
  | ok reply =>
      change Closes exchange.response closing (checkFinite reply) at hcloses
      unfold checkFinite at hcloses
      split at hcloses
      · cases hcloses with
        | sends hstatus hbody =>
            rw [List.append_nil]
            exact explains_sent hendpoint haccounts hstatus hbody
      · rename_i hinfinite
        cases hcloses with
        | reports hstatus hcode =>
            cases haccounts with
            | replies => exact explains_reported hendpoint (.fails .notFinite) hstatus hcode
            | decided _ _ _ _ hfinite => exact absurd hfinite hinfinite
            | recalled _ _ _ _ _ _ hfinite => exact absurd hfinite hinfinite
            | changed _ _ _ _ hfinite => exact absurd hfinite hinfinite

/-- What an exchange enters is what its answer says. -/
theorem explained (hcourse : Course Weather (answer exchange.request) exchange.now
    (.ok exchange.response) exchange.left) :
    ∃ entries, Enters entries exchange.now exchange.left ∧ exchange.Explains entries := by
  rcases answer_enters hcourse with ⟨hentered, hstatus, hcode⟩ |
    ⟨endpoint, ruleId, outcome, made, closing, hleads, hentered, haccounts, hcloses⟩
  · have hother : exchange.response.status ≠ 200 := by omega
    have hfails : ¬ IsSuccess exchange.response.status := fun h => Nat.not_lt.mpr hstatus h.2
    exact ⟨[], hentered, explains_nil (tells_eq_false hother) (cached?_eq_none hother)
      (changes_eq_false hfails) (reports_eq_false hcode)⟩
  · exact ⟨_, hentered, explains_of_accounts (endpoint?_eq hleads) haccounts hcloses⟩

end Exchange

end Service

end SkillTiers
