/-
# From the handling of a request to its response

Around the handling of a request nothing happens that decides anything: the request
gets an id, it is counted, and a failure is put into words. So a request follows
every outline that its handling follows, as long as the outline lets idle steps pass
(`Covers`). A response that the handler did not give itself, a refusal or a detour,
has a status of 300 or more.
-/

import SkillTiers.Proofs.Job.Crew
import SkillTiers.Proofs.Service.Steps

namespace SkillTiers

namespace Service

open Job

variable {Stage α β : Type} {outline : Outline Service Stage} {setting : Service}
  {request : Request}

/-- Where the request leads. -/
def destinationOf (service : Service) (request : Request) : Destination :=
  Route.destination (routes service.role service.config) request.method request.path

/-- The outline lets idle steps pass, and its states have the settings of a service. -/
structure Covers (setting : Service) (outline : Outline Service Stage) : Prop where
  known : ∀ service, outline.known service →
    service.role = setting.role ∧ service.config = setting.config
  thinks : ∀ stage service left, Idle service left → outline.think stage service stage left
  calls : ∀ stage service left, Idle service left → outline.ask stage service stage left

/-- What a reply says by its status and its body. -/
def Replied (told : Stage → Nat → Json → Prop) (stage : Stage) (outcome : Outcome Reply) :
    Prop :=
  ∀ reply, outcome = .ok reply → told stage reply.status reply.body

/-- What a response says by its status and its body. -/
def Responded (told : Stage → Nat → Json → Prop) (stage : Stage)
    (outcome : Outcome Response) : Prop :=
  ∀ response, outcome = .ok response → told stage response.status response.body

theorem replied_error (told : Stage → Nat → Json → Prop) (stage : Stage) (failure : Failure) :
    Replied told stage (.error failure) := by
  intro reply h
  cases h

theorem responded_error (told : Stage → Nat → Json → Prop) (stage : Stage)
    (failure : Failure) : Responded told stage (.error failure) := by
  intro response h
  cases h

/-- Steps that change nothing do not lead on. -/
theorem Covers.idle_then {allowed : Stage → Outcome β → Prop} {stage : Stage}
    (hcovers : Covers setting outline) {job : Job Service α} {rest : α → Job Service β}
    (hjob : job.Respects Idle) (hrest : ∀ value, (rest value).Follows outline allowed stage)
    (hfail : ∀ failure, allowed stage (.error failure)) :
    (job >>= rest).Follows outline allowed stage :=
  hjob.bind_follows (hcovers.thinks stage) (hcovers.calls stage) hrest hfail

/-- Measuring the time of a job does not lead on. -/
theorem Covers.timing {allowed : Stage → Outcome α → Prop} {stage : Stage}
    (hcovers : Covers setting outline) {scope : String} {job : Job Service α}
    (hjob : job.Follows outline allowed stage)
    (hfail : ∀ later failure, allowed later (.error failure)) :
    (timing scope job).Follows outline allowed stage := by
  have hattempt : job.attempt.Follows outline
      (fun later result => ∃ outcome, result = .ok outcome ∧ allowed later outcome) stage :=
    hjob.attempt fun later outcome hallowed => ⟨outcome, rfl, hallowed⟩
  apply hattempt.bind
  · rintro later outcome ⟨_, hsame, hallowed⟩
    cases hsame
    exact hcovers.idle_then (idle_meter _) (fun _ => hallowed) (hfail later)
  · rintro later failure ⟨_, hsame, _⟩
    cases hsame

variable {told : Stage → Nat → Json → Prop} {stage : Stage}

/-- The refusal of a body has a status of 300 or more. -/
theorem replied_refusal (hother : ∀ status body, 300 ≤ status → told stage status body)
    {refusal : Outcome Reply} (hrefusal : IsRefusal refusal) : Replied told stage refusal := by
  cases hrefusal with
  | refused hstatus detail =>
      rintro _ ⟨⟩
      refine hother _ _ ?_
      dsimp only
      omega
  | unsent => exact replied_error told stage _

/-- A request with a body follows an outline if the handling of the body does. -/
theorem withBody_follows (hother : ∀ status body, 300 ≤ status → told stage status body)
    {read : ProblemKind → Json → Reading α} {handle : α → Job Service Reply}
    (hhandle : ∀ value, readBody read request = .valid value →
      (handle value).Follows outline (Replied told) stage) :
    (withBody read request handle).Follows outline (Replied told) stage := by
  rcases withBody_cases read request handle with ⟨value, hbody, hhandled⟩ |
    ⟨refusal, hrefusal, hrefused⟩
  · exact hhandled ▸ hhandle value hbody
  · exact hrefused ▸ replied_refusal hother hrefusal

/-- Service errors have a status of 300 or more. -/
theorem le_status (error : ServiceError) : 300 ≤ error.status := by
  cases error <;> exact Nat.le_of_ble_eq_true rfl

theorem Covers.respond (hcovers : Covers setting outline) {id : String} {reply : Reply}
    (htold : told stage reply.status reply.body) :
    (respond request id reply).Follows outline (Responded told) stage := by
  refine hcovers.idle_then (idle_meter _) (fun _ => ?_) (responded_error told stage)
  intro response hresponse
  cases hresponse
  exact htold

/-- What is done with the outcome of the handling. -/
def closing (request : Request) (id : String) : Outcome Reply → Job Service Response
  | .ok reply => respond request id reply
  | .error (.service error) => do
    meter (.error error.code none)
    respond request id ⟨error.status, error.body (some id)⟩
  | .error _ => do
    meter (.error internalError none)
    return unexpected

theorem answer_eq (request : Request) :
    answer request = nameRequest request >>= fun id =>
      (dispatch request).attempt >>= closing request id :=
  rfl

/-- However the handling ends, the response tells what the reply does, or a status of 300 or
more. -/
theorem Covers.closing (hcovers : Covers setting outline)
    (hother : ∀ status body, 300 ≤ status → told stage status body) (id : String)
    {outcome : Outcome Reply} (htold : Replied told stage outcome) :
    (closing request id outcome).Follows outline (Responded told) stage := by
  cases outcome with
  | ok reply => exact hcovers.respond (htold reply rfl)
  | error failure =>
      cases failure with
      | service error =>
          refine hcovers.idle_then (idle_meter _) (fun _ => ?_) (responded_error told stage)
          exact hcovers.respond (hother _ _ (le_status error))
      | _ =>
          refine hcovers.idle_then (idle_meter _) (fun _ => ?_) (responded_error told stage)
          intro response hresponse
          cases hresponse
          exact hother _ _ (Nat.le_of_ble_eq_true rfl)

/-- The handling of a request at the endpoint that it leads to. -/
theorem Covers.dispatch (hcovers : Covers setting outline)
    (hother : ∀ status body, 300 ≤ status → told stage status body)
    (hhandle : ∀ endpoint ruleId,
      destinationOf setting request = .endpoint endpoint ruleId →
        (handle endpoint ruleId request).Follows outline (Replied told) stage) :
    (dispatch request).Follows outline (Replied told) stage := by
  have hdetail {status : Nat} {body : Json} (hstatus : 300 ≤ status) :
      Replied told stage (.ok ⟨status, body⟩) := by
    intro reply hreply
    cases hreply
    exact hother _ _ hstatus
  unfold Service.dispatch
  apply follows_look_bind
  intro service hknown
  refine ⟨stage, hcovers.thinks stage service service (idle_refl service), ?_⟩
  obtain ⟨hrole, hconfig⟩ := hcovers.known service hknown
  unfold destinationOf at hhandle
  dsimp only [id]
  rw [hrole, hconfig]
  cases hleads : Route.destination (routes setting.role setting.config) request.method
      request.path with
  | endpoint endpoint ruleId =>
      apply (hhandle endpoint ruleId hleads).bind
      · intro later reply htold checked hchecked
        unfold checkFinite at hchecked
        split at hchecked
        · cases hchecked
          exact htold reply rfl
        · cases hchecked
      · intro later failure _
        exact replied_error told later failure
  | otherMethod => exact hdetail (by decide)
  | otherSlashes => exact hdetail (by decide)
  | nowhere => exact hdetail (by decide)

/-- A request follows an outline that its handling follows. -/
theorem Covers.answer (hcovers : Covers setting outline)
    (hother : ∀ stage status body, 300 ≤ status → told stage status body)
    (hhandle : ∀ endpoint ruleId,
      destinationOf setting request = .endpoint endpoint ruleId →
        (handle endpoint ruleId request).Follows outline (Replied told) stage) :
    (answer request).Follows outline (Responded told) stage := by
  have hattempt : (Service.dispatch request).attempt.Follows outline
      (fun later result => ∃ outcome, result = .ok outcome ∧ Replied told later outcome) stage :=
    (hcovers.dispatch (hother stage) hhandle).attempt
      fun later outcome htold => ⟨outcome, rfl, htold⟩
  refine hcovers.idle_then (idle_nameRequest request) (fun id => ?_) (responded_error told stage)
  apply hattempt.bind
  · rintro later outcome ⟨_, hsame, htold⟩
    cases hsame
    exact hcovers.closing (hother later) id htold
  · intro later failure _
    exact responded_error told later failure

/-- The course of a request that reloads, where the settings are those of a
service. -/
def reloading (setting : Service) : Outline Service Unit where
  known service := service.role = setting.role ∧ service.config = setting.config
  think _ service _ left := Reloads service left
  ask _ service _ left := Reloads service left

/-- Every request that does not lead to the classification of counts reloads. -/
theorem answer_reloads
    (hother : ∀ ruleId, destinationOf setting request ≠ .endpoint .classifyCounts ruleId) :
    (answer request).Follows (reloading setting) (fun _ _ => True) () := by
  have hcovers : Covers setting (reloading setting) :=
    ⟨fun _ hknown => hknown, fun _ _ _ => Idle.reloads, fun _ _ _ => Idle.reloads⟩
  have hanswer : (answer request).Follows (reloading setting)
      (Responded fun _ _ _ => True) () := by
    apply hcovers.answer (fun _ _ _ _ => trivial)
    intro endpoint ruleId hleads
    have hendpoint : endpoint ≠ .classifyCounts := by
      intro hcounts
      exact hother ruleId (hcounts ▸ hleads)
    exact (reloads_handle hendpoint ruleId request).follows (fun _ _ h => h) (fun _ _ h => h)
      fun _ _ _ => trivial
  exact hanswer.mono fun _ _ _ => trivial

/-- The engine after the turns of a schedule. -/
def engineAfter {ι : Type} [DecidableEq ι] (crew : Crew ι Service Response)
    (schedule : List ι) : Engine :=
  (crew.after schedule).state.engine

end Service

end SkillTiers
