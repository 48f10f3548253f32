/-
# From the course of a request to its response

A request that has the service to itself gets an id, is handled, and is reported: its
course is the course of its handling, with quiet steps around it (`answer_course`).
The response says what the handler replies, or it has the status of the failure that
the handling ended with; a request that leads nowhere is answered without any
handling.
-/

import SkillTiers.Proofs.Service.Refresh
import SkillTiers.Proofs.Service.Transparency
import SkillTiers.Proofs.Store.Changes

namespace SkillTiers

/-- The status of the answer that a failure leads to. -/
def Failure.status : Failure → Nat
  | .service error => error.status
  | _ => 500

/-- The failure is answered as one of the service and not of the request. -/
def Failure.IsSevere (failure : Failure) : Prop :=
  500 ≤ failure.status

theorem Failure.IsOfData.isSevere {failure : Failure} (hdata : failure.IsOfData) :
    failure.IsSevere := by
  cases failure with
  | service error => cases hdata
  | _ => exact Nat.le_refl 500

theorem Failure.isSevere_fault (fault : Fault) : (Failure.fault fault).IsSevere :=
  Nat.le_refl 500

theorem Failure.le_status (failure : Failure) : 300 ≤ failure.status := by
  cases failure with
  | service error => exact Service.le_status error
  | _ => exact Nat.le_of_ble_eq_true rfl

namespace Service

open Job Renewal

/-- Outside the store nothing has changed that decides anything. -/
structure Apart (service left : Service) : Prop where
  role : left.role = service.role
  config : left.config = service.config
  engine : left.engine = service.engine
  isConnected : left.cache.isConnected = service.cache.isConnected
  entries : left.cache.server.entries = service.cache.server.entries

/-- Nothing has changed that decides anything. -/
structure Quiet (service left : Service) : Prop extends Apart service left where
  rows : left.store.rows = service.store.rows

theorem apart_refl (service : Service) : Apart service service :=
  ⟨rfl, rfl, rfl, rfl, rfl⟩

theorem Apart.trans {first second third : Service} (hfirst : Apart first second)
    (hsecond : Apart second third) : Apart first third where
  role := hsecond.role.trans hfirst.role
  config := hsecond.config.trans hfirst.config
  engine := hsecond.engine.trans hfirst.engine
  isConnected := hsecond.isConnected.trans hfirst.isConnected
  entries := hsecond.entries.trans hfirst.entries

theorem quiet_refl (service : Service) : Quiet service service :=
  ⟨apart_refl service, rfl⟩

theorem Quiet.trans {first second third : Service} (hfirst : Quiet first second)
    (hsecond : Quiet second third) : Quiet first third :=
  ⟨hfirst.toApart.trans hsecond.toApart, hsecond.rows.trans hfirst.rows⟩

theorem weather_quiet {service turned : Service} (hweather : Weather service turned) :
    Quiet service turned := by
  obtain ⟨storeOutage, cacheOutage, rfl⟩ := hweather
  exact ⟨⟨rfl, rfl, rfl, rfl, rfl⟩, rfl⟩

/-- A quiet service is in step if it was. -/
theorem Quiet.inStep {service left : Service} (hquiet : Quiet service left)
    (hstep : InStep service) : InStep left :=
  hstep.congr (Store.tabled_congr hquiet.rows) (congrArg Engine.ruleSet hquiet.engine)

/-- A request leads to the same place. -/
theorem Apart.destinationOf {service left : Service} (hapart : Apart service left)
    (request : Request) : destinationOf left request = destinationOf service request := by
  unfold Service.destinationOf
  rw [hapart.role, hapart.config]

/-- What a response says of the outcome of handling: the reply, if it can be sent, or
the status of the failure. -/
def Reports (response : Response) : Outcome Reply → Prop
  | .ok reply => (response.status = reply.status ∧ response.body = reply.body) ∨
      response.status = 500
  | .error failure => response.status = failure.status

variable {weather : Service → Service → Prop} {now left : Service} {request : Request}

theorem meter_course {change : Metrics → Metrics} {outcome : Outcome Unit}
    (hcourse : Course weather (meter change) now outcome left) :
    outcome = .ok () ∧ Quiet now left := by
  obtain ⟨houtcome, rfl⟩ := change_course hcourse
  exact ⟨houtcome, ⟨rfl, rfl, rfl, rfl, rfl⟩, rfl⟩

/-- Every request gets an id. -/
theorem nameRequest_course {outcome : Outcome String}
    (hcourse : Course weather (nameRequest request) now outcome left) :
    (∃ id, outcome = .ok id) ∧ Quiet now left := by
  unfold nameRequest at hcourse
  split at hcourse
  · obtain ⟨houtcome, rfl⟩ := done_course hcourse
    exact ⟨⟨_, houtcome⟩, quiet_refl _⟩
  · cases hcourse with
    | touch hrest =>
        obtain ⟨houtcome, rfl⟩ := done_course hrest
        exact ⟨⟨_, houtcome⟩, ⟨rfl, rfl, rfl, rfl, rfl⟩, rfl⟩

/-- A request with a body is refused with nothing done, or its body is handled. -/
theorem withBody_course {α : Type} {read : ProblemKind → Json → Reading α}
    {handle : α → Job Service Reply} {outcome : Outcome Reply}
    (hcourse : Course weather (withBody read request handle) now outcome left) :
    (IsRefusal outcome ∧ left = now) ∨
      ∃ value, readBody read request = .valid value ∧
        Course weather (handle value) now outcome left := by
  rcases withBody_cases read request handle with ⟨value, hbody, hhandled⟩ |
    ⟨refusal, hrefusal, hrefused⟩
  · exact .inr ⟨value, hbody, hhandled ▸ hcourse⟩
  · obtain ⟨rfl, hsame⟩ := done_course (hrefused ▸ hcourse)
    exact .inl ⟨hrefusal, hsame⟩

/-- A request without an actor fails with nothing done; with one it goes on. -/
theorem actorOf_then_course {α : Type} {rest : String → Job Service α} {outcome : Outcome α}
    (hcourse : Course weather (actorOf request >>= rest) now outcome left) :
    (∃ failure, outcome = .error failure ∧ left = now) ∨
      ∃ actor, nonempty? request.actor? = some actor ∧
        Course weather (rest actor) now outcome left := by
  cases hactor : nonempty? request.actor? with
  | some actor =>
      rw [actorOf_of_some hactor] at hcourse
      exact .inr ⟨actor, rfl, hcourse⟩
  | none =>
      rw [actorOf_of_none hactor] at hcourse
      exact .inl ⟨_, done_course hcourse⟩

theorem respond_course {id : String} {reply : Reply} {outcome : Outcome Response}
    (hcourse : Course weather (respond request id reply) now outcome left) :
    (∃ response, outcome = .ok response ∧ response.status = reply.status ∧
      response.body = reply.body) ∧ Quiet now left := by
  rcases bind_course hcourse with ⟨failure, -, hmeter⟩ | ⟨_, mid, hmeter, hrest⟩
  · cases (meter_course hmeter).1
  · obtain ⟨houtcome, rfl⟩ := done_course hrest
    exact ⟨⟨_, houtcome, rfl, rfl⟩, (meter_course hmeter).2⟩

/-- Counting, and then the rest. -/
theorem meter_then_course {α : Type} {change : Metrics → Metrics} {rest : Job Service α}
    {outcome : Outcome α}
    (hcourse : Course weather (meter change >>= fun _ => rest) now outcome left) :
    ∃ mid, Quiet now mid ∧ Course weather rest mid outcome left := by
  rcases bind_course hcourse with ⟨failure, -, hmeter⟩ | ⟨_, mid, hmeter, hrest⟩
  · cases (meter_course hmeter).1
  · exact ⟨mid, (meter_course hmeter).2, hrest⟩

/-- A request is handled where it leads to an endpoint, and otherwise refused. -/
theorem dispatch_course {outcome : Outcome Reply}
    (hcourse : Course weather (dispatch request) now outcome left) :
    ((∀ endpoint ruleId, destinationOf now request ≠ .endpoint endpoint ruleId) ∧ left = now ∧
        ∃ reply, outcome = .ok reply ∧ 300 ≤ reply.status ∧ reply.body.field? "code" = none) ∨
      ∃ endpoint ruleId inner, destinationOf now request = .endpoint endpoint ruleId ∧
        Course weather (handle endpoint ruleId request) now inner left ∧
        outcome = inner.bind checkFinite := by
  unfold dispatch at hcourse
  replace hcourse := look_then_course hcourse
  unfold destinationOf
  dsimp only [id] at hcourse
  cases hleads : Route.destination (routes now.role now.config) request.method request.path with
  | endpoint endpoint ruleId =>
      rw [hleads] at hcourse
      right
      rcases bind_course hcourse with ⟨failure, rfl, hhandle⟩ | ⟨reply, handled, hhandle, hrest⟩
      · exact ⟨endpoint, ruleId, _, rfl, hhandle, rfl⟩
      · obtain ⟨rfl, rfl⟩ := done_course hrest
        exact ⟨endpoint, ruleId, _, rfl, hhandle, rfl⟩
  | otherMethod =>
      rw [hleads] at hcourse
      obtain ⟨houtcome, rfl⟩ := done_course hcourse
      exact .inl ⟨nofun, rfl, _, houtcome, Nat.le_of_ble_eq_true rfl, rfl⟩
  | otherSlashes =>
      rw [hleads] at hcourse
      obtain ⟨houtcome, rfl⟩ := done_course hcourse
      exact .inl ⟨nofun, rfl, _, houtcome, Nat.le_of_ble_eq_true rfl, rfl⟩
  | nowhere =>
      rw [hleads] at hcourse
      obtain ⟨houtcome, rfl⟩ := done_course hcourse
      exact .inl ⟨nofun, rfl, _, houtcome, Nat.le_of_ble_eq_true rfl, rfl⟩

/-- What is done with the outcome of a request makes a response of it. -/
theorem closing_course {id : String} {inner : Outcome Reply} {outcome : Outcome Response}
    (hcourse : Course weather (closing request id inner) now outcome left) :
    Quiet now left ∧ ∃ response, outcome = .ok response ∧
      (∀ reply, inner = .ok reply →
        response.status = reply.status ∧ response.body = reply.body) ∧
      ∀ failure, inner = .error failure → response.status = failure.status := by
  cases inner with
  | ok reply =>
      obtain ⟨⟨response, houtcome, hsame⟩, hquiet⟩ := respond_course hcourse
      refine ⟨hquiet, response, houtcome, ?_, nofun⟩
      rintro _ ⟨⟩
      exact hsame
  | error failure =>
      cases failure with
      | service error =>
          obtain ⟨mid, hmeter, hrest⟩ := meter_then_course hcourse
          obtain ⟨⟨response, houtcome, hstatus, -⟩, hquiet⟩ := respond_course hrest
          refine ⟨hmeter.trans hquiet, response, houtcome, nofun, ?_⟩
          rintro _ ⟨⟩
          exact hstatus
      | _ =>
          obtain ⟨mid, hmeter, hrest⟩ := meter_then_course hcourse
          obtain ⟨houtcome, rfl⟩ := done_course hrest
          refine ⟨hmeter, unexpected, houtcome, nofun, ?_⟩
          rintro _ ⟨⟩
          rfl

/-- Every request is answered. One that leads to an endpoint is handled there, with
nothing but quiet steps around; any other is answered with a status of 300 or more. -/
theorem answer_course {outcome : Outcome Response}
    (hcourse : Course weather (answer request) now outcome left) :
    ∃ response, outcome = .ok response ∧
      (((∀ endpoint ruleId, destinationOf now request ≠ .endpoint endpoint ruleId) ∧
          Quiet now left ∧ 300 ≤ response.status) ∨
        ∃ endpoint ruleId begun handled inner,
          destinationOf now request = .endpoint endpoint ruleId ∧ Quiet now begun ∧
          Course weather (handle endpoint ruleId request) begun inner handled ∧
          Quiet handled left ∧ Reports response inner) := by
  rw [answer_eq] at hcourse
  rcases bind_course hcourse with ⟨failure, -, hname⟩ | ⟨id, begun, hname, hcourse⟩
  · obtain ⟨⟨_, hnamed⟩, -⟩ := nameRequest_course hname
    cases hnamed
  obtain ⟨-, hbegun⟩ := nameRequest_course hname
  have hdestination := hbegun.destinationOf request
  obtain ⟨inner, handled, hdispatch, hcourse⟩ := attempt_then_course hcourse
  obtain ⟨hreply, response, houtcome, htold, hfailed⟩ := closing_course hcourse
  refine ⟨response, houtcome, ?_⟩
  rcases dispatch_course hdispatch with ⟨hnowhere, rfl, reply, rfl, hstatus, -⟩ |
    ⟨endpoint, ruleId, inner, hleads, hhandle, rfl⟩
  · refine .inl ⟨fun endpoint ruleId h => ?_, hbegun.trans hreply, (htold reply rfl).1 ▸ hstatus⟩
    exact hnowhere endpoint ruleId (hdestination.trans h)
  · refine .inr ⟨endpoint, ruleId, begun, handled, inner, hdestination.symm.trans hleads, hbegun,
      hhandle, hreply, ?_⟩
    cases inner with
    | error failure => exact hfailed failure rfl
    | ok reply =>
        by_cases hfinite : reply.body.isFinite = true
        · have hchecked : checkFinite reply = .ok reply := by rw [checkFinite, if_pos hfinite]
          exact .inl (htold reply hchecked)
        · have hchecked : checkFinite reply = .error .notFinite := by
            rw [checkFinite, if_neg hfinite]
          exact .inr (hfailed .notFinite hchecked)

end Service

end SkillTiers
