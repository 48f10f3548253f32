/-
# Changes need an actor

A request without an acting user changes no rules, neither in the table nor in the
engine, and no change is counted (`unrevised_without_actor`). It need not be one that
reads: where it asks for a change and its body is acceptable it is refused before any
server is called. Such a job is local (`Job.IsLocal`), so that no weather comes between
its steps.
-/

import SkillTiers.Proofs.Service.Response

namespace SkillTiers

namespace Service

open Job Renewal

variable {request : Request} {endpoint : Endpoint} {ruleId : String}

/-- The body of the request is one that the endpoint, which is there for changing rules,
accepts. Some such endpoints read no body. -/
def AcceptsBody (request : Request) : Endpoint → Prop
  | .createRule => ∃ draft, readBody RuleDraft.read request = .valid draft
  | .updateRule => ∃ change, readBody RuleChange.read request = .valid change
  | .reorderRules => ∃ placements, readBody Placement.readAll request = .valid placements
  | _ => True

/-- A header without a value arrives without one. -/
theorem actor?_of_sent (hsent : nonempty? (request.sent? "x-user-id") = none) :
    nonempty? request.actor? = none := by
  unfold Request.actor? Request.header?
  cases hvalue : request.sent? "x-user-id" with
  | none => rfl
  | some value =>
      rw [hvalue] at hsent
      have hempty : value = "" := by simpa [nonempty?] using hsent
      simp [hempty, nonempty?, Request.arrived]

section Anonymous

variable (hactor : nonempty? request.actor? = none)

include hactor

/-- Without an actor what needs one fails at once. -/
theorem actorOf_bind {α : Type} (rest : String → Job Service α) :
    (actorOf request >>= rest) = .done (.error (.service .notAuthenticated)) := by
  unfold actorOf
  rw [hactor]
  rfl

/-- A request without an actor that asks for a change, with an acceptable body, is refused. -/
theorem handle_eq_refusal (hchanges : changesRules endpoint = true)
    (hbody : AcceptsBody request endpoint) (ruleId : String) :
    handle endpoint ruleId request = .done (.error (.service .notAuthenticated)) := by
  cases endpoint with
  | createRule =>
      obtain ⟨draft, hdraft⟩ := hbody
      exact (withBody_of_valid hdraft).trans (actorOf_bind hactor _)
  | updateRule =>
      obtain ⟨change, hchange⟩ := hbody
      exact (withBody_of_valid hchange).trans (actorOf_bind hactor _)
  | reorderRules =>
      obtain ⟨placements, hplacements⟩ := hbody
      exact (withBody_of_valid hplacements).trans (actorOf_bind hactor _)
  | deleteRule => exact actorOf_bind hactor _
  | seedRules => exact actorOf_bind hactor _
  | _ => cases hchanges

/-- Without an actor no endpoint changes the rules. -/
theorem unrevised_handle (endpoint : Endpoint) (ruleId : String) :
    (handle endpoint ruleId request).Respects Unrevised := by
  have hrefused {α : Type} (rest : String → Job Service α) :
      (actorOf request >>= rest).Respects Unrevised := by
    rw [actorOf_bind hactor]
    exact respects_done _
  cases endpoint with
  | createRule => exact respects_withBody fun _ => hrefused _
  | updateRule => exact respects_withBody fun _ => hrefused _
  | reorderRules => exact respects_withBody fun _ => hrefused _
  | deleteRule => exact hrefused _
  | seedRules => exact hrefused _
  | classifyCounts => exact unrevised_classifyCounts request
  | _ => exact unrevised_of_passive (passive_handle (by decide) ruleId request)

/-- Without an actor a request changes no rules. -/
theorem unrevised_answer : (answer request).Respects Unrevised := by
  have hmeter {change : Metrics → Metrics} (hchange : Metrics.KeepsRuleChanges change) :
      (meter change).Respects Unrevised := unrevised_of_passive (passive_meter hchange)
  have hdispatch : (dispatch request).Respects Unrevised := by
    refine (unrevised_of_passive (passive_look _)).bind fun service => ?_
    split
    · exact (unrevised_handle hactor _ _).bind fun _ => respects_done _
    · exact respects_done _
    · exact respects_done _
    · exact respects_done _
  have hrespond (id : String) (reply : Reply) : (respond request id reply).Respects Unrevised :=
    (hmeter (Metrics.keepsRuleChanges_httpRequest _ _ _)).bind fun _ => respects_done _
  have herror (code : String) : (meter (.error code none)).Respects Unrevised :=
    hmeter (Metrics.keepsRuleChanges_error code none)
  refine (unrevised_of_passive (passive_nameRequest request)).bind fun id => ?_
  refine hdispatch.attempt.bind fun outcome => ?_
  cases outcome with
  | ok reply => exact hrespond id reply
  | error failure =>
      cases failure with
      | service error => exact (herror error.code).bind fun _ => hrespond id _
      | _ => exact (herror internalError).bind fun _ => respects_done _

end Anonymous

/-! ### Refusals -/

variable {now left : Service} {outcome : Outcome Response}

/-- Naming a request is work in memory, and leaves all but the number of requests as it
is. -/
theorem nameRequest_run (request : Request) (now : Service) :
    (nameRequest request).IsLocal now ∧ ∃ id number,
      (nameRequest request).run now = (.ok id, { now with requestsNamed := number }) := by
  unfold nameRequest
  split
  · exact ⟨trivial, _, now.requestsNamed, rfl⟩
  · exact ⟨trivial, _, _, rfl⟩

/-- Where the handling of a request is a refusal, no server is called on the way, and the
answer reports the error. -/
theorem answer_refused {error : ServiceError}
    (hleads : destinationOf now request = .endpoint endpoint ruleId)
    (hrefused : handle endpoint ruleId request = .done (.error (.service error))) :
    (answer request).IsLocal now ∧ ∃ response left,
      (answer request).run now = (.ok response, left) ∧ left.store = now.store ∧
      response.status = error.status ∧ ∃ id, response.body = error.body (some id) := by
  obtain ⟨hnamed, id, number, hname⟩ := nameRequest_run request now
  have hdispatch : (dispatch request).IsLocal { now with requestsNamed := number } ∧
      (dispatch request).run { now with requestsNamed := number } =
        (.error (.service error), { now with requestsNamed := number }) := by
    unfold destinationOf at hleads
    unfold dispatch
    rw [isLocal_look_bind, run_look_bind]
    dsimp only [Function.id_def]
    rw [hleads]
    dsimp only
    rw [hrefused]
    exact ⟨trivial, rfl⟩
  unfold answer
  constructor
  · refine hnamed.bind fun _ => ?_
    rw [hname]
    refine hdispatch.1.attempt.bind fun ended => ?_
    split
    · trivial
    · trivial
    · trivial
  · rw [run_bind, hname]
    dsimp only
    rw [run_bind, run_attempt, hdispatch.2]
    exact ⟨_, _, rfl, rfl, rfl, id, rfl⟩

/-- A request without an acting user leaves the rules as they are, in the table and in the
engine, and counts no change of them, whatever calls fail on it. If it asks for a change
and its body is acceptable, it calls no server and is answered that the user is not
authenticated. -/
theorem unrevised_without_actor (hsent : nonempty? (request.sent? "x-user-id") = none)
    (hcourse : Course Weather (answer request) now outcome left) :
    (left.store.rows = now.store.rows ∧ left.engine = now.engine ∧
      left.metrics.ruleChanges = now.metrics.ruleChanges) ∧
    ∀ endpoint ruleId, destinationOf now request = .endpoint endpoint ruleId →
      changesRules endpoint = true → AcceptsBody request endpoint →
        (answer request).IsLocal now ∧ left.store = now.store ∧
        ∃ response, outcome = .ok response ∧ response.status = 401 ∧
          response.body.field? "code" = some (.string "AUTHENTICATION_ERROR") := by
  have hactor := actor?_of_sent hsent
  constructor
  · have hkept : Unrevised now left := by
      apply hcourse.respects unrevised_refl Unrevised.trans _ (unrevised_answer hactor)
      rintro _ _ ⟨storeOutage, cacheOutage, rfl⟩
      exact ⟨rfl, rfl, rfl, rfl, rfl⟩
    exact ⟨hkept.rows, hkept.engine, hkept.ruleChanges⟩
  · intro endpoint ruleId hleads hchanges hbody
    obtain ⟨hlocal, response, left', hrun, hstore, hstatus, id, hreported⟩ :=
      answer_refused hleads (handle_eq_refusal hactor hchanges hbody ruleId)
    obtain ⟨rfl, rfl⟩ := Prod.mk.inj ((hcourse.eq_run hlocal).symm.trans hrun)
    refine ⟨hlocal, hstore, response, rfl, hstatus, ?_⟩
    rw [hreported]
    rfl

/-- A request to delete a rule, with an empty text for who acts. -/
def namelessDeletion : Request :=
  { deletion "first" with headers := [("X-User-Id", "")] }

/-- The plain service refuses it. -/
theorem unrevised_without_actor_deletion :
    ((answer namelessDeletion).run plain).2.store.rows = plain.store.rows ∧
      (answer namelessDeletion).IsLocal plain ∧
      ∃ response, ((answer namelessDeletion).run plain).1 = .ok response ∧
        response.status = 401 ∧
        response.body.field? "code" = some (.string "AUTHENTICATION_ERROR") := by
  have hsent : nonempty? (namelessDeletion.sent? "x-user-id") = none := by decide +kernel
  have hleads : destinationOf plain namelessDeletion = .endpoint .deleteRule "first" := by rfl
  obtain ⟨⟨hrows, -, -⟩, hrefused⟩ :=
    unrevised_without_actor hsent (course_run weather_refl (answer namelessDeletion) plain)
  obtain ⟨hlocal, -, hresponse⟩ := hrefused .deleteRule "first" hleads rfl trivial
  exact ⟨hrows, hlocal, hresponse⟩

end Service

end SkillTiers
