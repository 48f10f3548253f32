/-
# The course of a request that changes rules

A request that changes rules writes to the store, reads the rules of the table and
puts them into the engine, in this order and each once. `answer_renews` says so step
by step: an answer of success comes from a request that has put the rules it read
into the engine, or else it says that nothing was seeded, and its request has changed
nothing.
-/

import SkillTiers.Proofs.Service.Answer
import SkillTiers.Proofs.Store.Changes

namespace SkillTiers

namespace Service

open Job

/-- How far a change of the rules has come. -/
inductive Renewal where
  /-- Nothing has been changed. -/
  | fresh
  /-- The rows may have been changed. -/
  | changed
  /-- Rules have been read after that. -/
  | read (rules : List Rule)
  /-- The rules that were read have been put into the engine. -/
  | renewed

namespace Renewal

/-- What work in memory may do. -/
inductive Thinks : Renewal → Service → Renewal → Service → Prop where
  /-- It changes nothing. -/
  | idle {stage : Renewal} {service left : Service} (hidle : Idle service left) :
      Thinks stage service stage left
  /-- It puts the rules that were read into the engine. -/
  | load {rules : List Rule} {service left : Service} (hrole : left.role = service.role)
      (hconfig : left.config = service.config) (hrows : left.store.rows = service.store.rows)
      (hbuild : RuleSet.build rules = .ok left.engine.ruleSet) :
      Thinks (.read rules) service .renewed left

/-- What a call may do. -/
inductive Calls : Renewal → Service → Renewal → Service → Prop where
  /-- It changes nothing. -/
  | idle {stage : Renewal} {service left : Service} (hidle : Idle service left) :
      Calls stage service stage left
  /-- It writes to the store. -/
  | write {service left : Service} (hrole : left.role = service.role)
      (hconfig : left.config = service.config) (hengine : left.engine = service.engine) :
      Calls .fresh service .changed left
  /-- It reads the rules of the table. -/
  | fetch {rules : List Rule} {service left : Service} (hidle : Idle service left)
      (hrules : service.store.tabled = .ok rules) :
      Calls .changed service (.read rules) left

/-- Steps of work in memory in a row are one step. -/
theorem Thinks.trans {first second third : Renewal} {service between left : Service}
    (hfirst : Thinks first service second between)
    (hsecond : Thinks second between third left) : Thinks first service third left := by
  cases hfirst with
  | idle hidle =>
      cases hsecond with
      | idle hidle' => exact .idle (hidle.trans hidle')
      | load hrole hconfig hrows hbuild =>
          exact .load (hrole.trans hidle.role) (hconfig.trans hidle.config)
            (hrows.trans hidle.rows) hbuild
  | load hrole hconfig hrows hbuild =>
      cases hsecond with
      | idle hidle =>
          exact .load (hidle.role.trans hrole) (hidle.config.trans hconfig)
            (hidle.rows.trans hrows) (hidle.engine ▸ hbuild)

/-- Work in memory leaves the settings as they are. -/
theorem Thinks.settings {stage later : Renewal} {service left : Service}
    (hmove : Thinks stage service later left) :
    left.role = service.role ∧ left.config = service.config := by
  cases hmove with
  | idle hidle => exact ⟨hidle.role, hidle.config⟩
  | load hrole hconfig => exact ⟨hrole, hconfig⟩

/-- A call leaves the settings as they are. -/
theorem Calls.settings {stage later : Renewal} {service left : Service}
    (hmove : Calls stage service later left) :
    left.role = service.role ∧ left.config = service.config := by
  cases hmove with
  | idle hidle => exact ⟨hidle.role, hidle.config⟩
  | write hrole hconfig => exact ⟨hrole, hconfig⟩
  | fetch hidle => exact ⟨hidle.role, hidle.config⟩

/-- The course of a request where the settings are those of a service. -/
def outline (setting : Service) : Outline Service Renewal where
  known service := service.role = setting.role ∧ service.config = setting.config
  think := Thinks
  ask := Calls

/-- A status that reports success. -/
def IsSuccess (status : Nat) : Prop :=
  200 ≤ status ∧ status < 300

/-- The answer that nothing was seeded. -/
def NoneSeeded (body : Json) : Prop :=
  body.field? "seeded" = some (.ofInt 0)

/-- An answer of success comes after a renewal, or else nothing was seeded. -/
def Answers (stage : Renewal) (status : Nat) (body : Json) : Prop :=
  IsSuccess status → stage = .renewed ∨ (stage = .fresh ∧ NoneSeeded body)

/-- Whether an endpoint is there for changing rules. -/
def changesRules : Endpoint → Bool
  | .createRule | .updateRule | .deleteRule | .reorderRules | .seedRules => true
  | _ => false

end Renewal

open Renewal

variable {setting : Service} {request : Request} {α : Type}

theorem covers_renewal : Covers setting (Renewal.outline setting) :=
  ⟨fun _ hknown => hknown, fun _ _ _ => .idle, fun _ _ _ => .idle⟩

theorem answers_other_renewal (stage : Renewal) (status : Nat) (body : Json)
    (hstatus : 300 ≤ status) : Renewal.Answers stage status body :=
  fun hsuccess => absurd hsuccess.2 (Nat.not_lt.mpr hstatus)

/-- After a renewal every reply is allowed. -/
theorem replied_renewed (outcome : Outcome Reply) :
    Replied Renewal.Answers .renewed outcome :=
  fun _ _ _ => .inl rfl

/-- Once the rows have changed, a refresh that ends well has renewed the engine. -/
theorem refresh_follows (operation : String) :
    (refresh operation).Follows (Renewal.outline setting)
      (fun stage outcome => outcome = .ok () → stage = .renewed) .changed := by
  have hload (rules : List Rule) : (loadRules rules).Follows (Renewal.outline setting)
      (fun stage outcome => outcome = .ok () → stage = .renewed) (.read rules) := by
    intro service _
    dsimp only
    cases hload : service.engine.load rules with
    | error failure =>
        refine ⟨.read rules, .idle (idle_refl service), ?_⟩
        intro h
        cases h
    | ok loaded =>
        obtain ⟨-, hbuild⟩ := load_ok hload
        exact ⟨.renewed, .load rfl rfl rfl hbuild, fun _ => rfl⟩
  have hstored : loadStored.Follows (Renewal.outline setting)
      (fun stage outcome => outcome = .ok () → stage = .renewed) .changed := by
    intro service _
    have hkeeps := Store.keepsRows_fetchAll service.store
    dsimp only
    cases hfetch : Store.fetchAll service.store with
    | mk outcome left =>
        rw [hfetch] at hkeeps
        have hidle : Idle service { service with store := left } :=
          ⟨rfl, rfl, rfl, hkeeps, ResultCache.drops_refl _⟩
        cases outcome with
        | error failure =>
            refine ⟨.changed, .idle hidle, ?_⟩
            intro h
            cases h
        | ok rules =>
            refine ⟨.read (rules.map StoredRule.rule),
              .fetch hidle (Store.tabled_of_fetchAll hfetch), ?_⟩
            exact hload (rules.map StoredRule.rule)
  apply hstored.bind
  · intro stage _ hrenewed
    rw [hrenewed rfl]
    exact Respects.follows
      ((idle_onCache ResultCache.respects_invalidateAll).bind fun _ => idle_meter _)
      (fun _ _ => .idle) (fun _ _ => .idle) fun _ _ => rfl
  · intro stage failure _ h
    cases h

/-- A refresh and then a reply, once the rows have changed. -/
theorem refresh_then {operation : String} {rest : Job Service Reply}
    (hrest : rest.Respects Idle) :
    (refresh operation >>= fun _ => rest).Follows (Renewal.outline setting)
      (Replied Renewal.Answers) .changed := by
  apply (refresh_follows operation).bind
  · intro stage _ hrenewed
    rw [hrenewed rfl]
    exact hrest.follows (fun _ _ => .idle) (fun _ _ => .idle) replied_renewed
  · intro stage failure _
    exact replied_error _ stage failure

/-- A write to the store, a refresh and then a reply. -/
theorem write_then {action : Store.Action α} {operation : String}
    {rest : α → Job Service Reply} (hrest : ∀ value, (rest value).Respects Idle) :
    (onStore action >>= fun value => refresh operation >>= fun _ => rest value).Follows
      (Renewal.outline setting) (Replied Renewal.Answers) .fresh := by
  have hwrite : (onStore action).Follows (Renewal.outline setting)
      (fun stage _ => stage = .changed) .fresh :=
    fun _ _ => ⟨.changed, .write rfl rfl rfl, rfl⟩
  apply hwrite.bind
  · intro stage value hchanged
    rw [hchanged]
    exact refresh_then (hrest value)
  · intro stage failure _
    exact replied_error _ stage failure

theorem createRule_renews :
    (createRule request).Follows (Renewal.outline setting) (Replied Renewal.Answers) .fresh := by
  apply withBody_follows (answers_other_renewal _)
  intro draft _
  refine covers_renewal.idle_then (idle_actorOf request) (fun actor => ?_) (replied_error _ _)
  refine covers_renewal.idle_then (idle_checkRule _) (fun _ => ?_) (replied_error _ _)
  exact write_then fun created => (respects_done _).bind fun _ => respects_done _

theorem updateRule_renews (id : String) :
    (updateRule id request).Follows (Renewal.outline setting) (Replied Renewal.Answers)
      .fresh := by
  apply withBody_follows (answers_other_renewal _)
  intro change _
  refine covers_renewal.idle_then (idle_actorOf request) (fun actor => ?_) (replied_error _ _)
  refine covers_renewal.idle_then (idle_onStore (Store.keepsRows_get id)) (fun existing? => ?_)
    (replied_error _ _)
  cases existing? with
  | none => exact replied_error _ _ _
  | some existing =>
      refine covers_renewal.idle_then (idle_checkRule _) (fun _ => ?_) (replied_error _ _)
      exact write_then fun updated => (respects_done _).bind fun _ => respects_done _

theorem deleteRule_renews (id : String) :
    (deleteRule id request).Follows (Renewal.outline setting) (Replied Renewal.Answers)
      .fresh := by
  refine covers_renewal.idle_then (idle_actorOf request) (fun actor => ?_) (replied_error _ _)
  exact write_then fun _ => respects_done _

theorem reorderRules_renews :
    (reorderRules request).Follows (Renewal.outline setting) (Replied Renewal.Answers)
      .fresh := by
  apply withBody_follows (answers_other_renewal _)
  intro placements _
  refine covers_renewal.idle_then (idle_actorOf request) (fun actor => ?_) (replied_error _ _)
  exact write_then fun _ => respects_done _

/-- Seeding renews the engine if it has seeded rules, and otherwise says so. -/
theorem seedRules_renews :
    (seedRules request).Follows (Renewal.outline setting) (Replied Renewal.Answers) .fresh := by
  refine covers_renewal.idle_then (idle_actorOf request) (fun actor => ?_) (replied_error _ _)
  have hseed : (onStore (Store.seed (some actor))).Follows (Renewal.outline setting)
      (fun stage outcome => (stage = .changed ∧ outcome ≠ .ok []) ∨
        (stage = .fresh ∧ outcome = .ok [])) .fresh := by
    intro service _
    dsimp only
    cases hresult : Store.seed (some actor) service.store with
    | mk outcome left =>
        by_cases hnone : outcome = .ok []
        · rw [hnone] at hresult
          refine ⟨.fresh, .idle ⟨rfl, rfl, rfl, Store.seed_nothing hresult, ?_⟩,
            .inr ⟨rfl, hnone⟩⟩
          exact ResultCache.drops_refl _
        · exact ⟨.changed, .write rfl rfl rfl, .inl ⟨rfl, hnone⟩⟩
  apply hseed.bind
  · intro stage created hstage
    dsimp only
    rcases hstage with ⟨rfl, hsome⟩ | ⟨rfl, hnone⟩
    · cases created with
      | nil => exact absurd rfl hsome
      | cons first others =>
          exact refresh_then ((respects_done _).bind fun _ => respects_done _)
    · cases hnone
      intro reply hreply
      cases hreply
      exact fun _ => .inr ⟨rfl, rfl⟩
  · intro stage failure _
    exact replied_error _ stage failure

/-- Every request that leads to a change of the rules renews the engine before it
reports success, unless it reports that nothing was seeded. -/
theorem answer_renews {endpoint : Endpoint} {ruleId : String}
    (hleads : destinationOf setting request = .endpoint endpoint ruleId)
    (hchanges : changesRules endpoint = true) :
    (answer request).Follows (Renewal.outline setting) (Responded Renewal.Answers) .fresh := by
  apply covers_renewal.answer answers_other_renewal
  intro endpoint' ruleId' hleads'
  rw [hleads] at hleads'
  cases hleads'
  cases endpoint with
  | createRule => exact createRule_renews
  | updateRule => exact updateRule_renews ruleId
  | deleteRule => exact deleteRule_renews ruleId
  | reorderRules => exact reorderRules_renews
  | seedRules => exact seedRules_renews
  | _ => cases hchanges

end Service

end SkillTiers
