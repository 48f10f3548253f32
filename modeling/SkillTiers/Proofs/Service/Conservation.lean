/-
# Counts and answers agree

A run of a service is a row of events, starts and loads of rules among them, with an
exchange for each request that is answered (`Served`). What an exchange enters its answer
says, and so at every moment of a run the counts are numbers of answers
(`balances_of_served`): of those that tell a tier in a scope, of those that come from the
cache, of those that report an error with a code. Changes of the rules are counted before
they are answered. There can be more of them than answers of success, unless the conditions
in the run are low: a rule that is too high to be shown is changed, counted, and answered
with an error (`not_changed_eq_answers`).
-/

import SkillTiers.Proofs.Service.Exchange

namespace SkillTiers

namespace Service

open Job Renewal

/-! ### Runs -/

/-- A run of a service: the exchanges for its requests, the latest first. There are starts
and loads of rules in between, and any calls fail. Every request is answered
(`answer_course`), and so none is missing. -/
inductive Served (first : Service) : List Exchange → Service → Prop where
  | made : Served first [] first
  | started {log : List Exchange} {now left : Service} {outcome : Outcome Unit}
      (hserved : Served first log now) (hcourse : Course Weather start now outcome left) :
      Served first log left
  | loaded {log : List Exchange} {now left : Service} {rules : List Rule} {outcome : Outcome Unit}
      (hserved : Served first log now)
      (hcourse : Course Weather (loadRules rules) now outcome left) : Served first log left
  | answered {log : List Exchange} {exchange : Exchange} (hserved : Served first log exchange.now)
      (hcourse : Course Weather (answer exchange.request) exchange.now (.ok exchange.response)
        exchange.left) : Served first (exchange :: log) exchange.left

/-- It holds of the conditions that there are in a run: of those in the rows at first, and of
those that requests bring. -/
structure HoldsThroughout (holds : List Condition → Prop) (first : Service)
    (log : List Exchange) : Prop where
  rows : ∀ row ∈ first.store.rows, ∀ conditions, row.readConditions = .ok conditions →
    holds conditions
  bodies : ∀ exchange ∈ log, ∀ endpoint ∈ exchange.endpoint?,
    Brings holds exchange.request endpoint

variable {now left first : Service} {log : List Exchange}

/-- In a run with low conditions all rows are low at every moment. -/
theorem Served.isLow (hserved : Served first log left)
    (hlow : HoldsThroughout Condition.IsLow first log) :
    (∀ row ∈ left.store.rows, row.IsLow) ∧ ∀ exchange ∈ log, exchange.IsLow := by
  induction hserved with
  | made => exact ⟨hlow.rows, List.forall_mem_nil _⟩
  | started hserved hcourse ih =>
      obtain ⟨hrows, hlog⟩ := ih hlow
      exact ⟨(keepsAll_of_start (fun _ _ _ => Seed.isLow_of_mem) hcourse).rows hrows, hlog⟩
  | loaded hserved hcourse ih =>
      obtain ⟨hrows, hlog⟩ := ih hlow
      exact ⟨(steady_of_course hcourse (steady_loadRules _)).keepsAll.rows hrows, hlog⟩
  | @answered log exchange hserved hcourse ih =>
      obtain ⟨hbrings, hearlier⟩ := List.forall_mem_cons.mp hlow.bodies
      obtain ⟨hrows, hlog⟩ := ih ⟨hlow.rows, hearlier⟩
      have hkept : KeepsAll Row.IsLow exchange.now exchange.left :=
        keepsAll_of_answer hcourse fun endpoint ruleId hleads rows hrevises =>
          hrevises.isLow (hbrings endpoint (Exchange.endpoint?_eq hleads))
      have hexchange : exchange.IsLow := fun endpoint hleads => ⟨hbrings endpoint hleads, hrows⟩
      exact ⟨hkept.rows hrows, List.forall_mem_cons.mpr ⟨hexchange, hlog⟩⟩

/-- A run keeps the name under which the service counts. -/
theorem Served.service_eq (hserved : Served first log left) :
    left.metrics.service = first.metrics.service := by
  induction hserved with
  | made => rfl
  | started hserved hcourse ih =>
      exact (enters_of_course hcourse enters_start).service.trans ih
  | loaded hserved hcourse ih =>
      exact (enters_of_course hcourse (enters_loadRules _)).service.trans ih
  | answered hserved hcourse ih =>
      obtain ⟨entries, hentered, -⟩ := Exchange.explained hcourse
      exact hentered.service.trans ih

/-! ### Runs of requests alone -/

/-- The exchanges for requests, the latest first, while no call fails, and the service
after them. -/
def replay (first : Service) : List Request → List Exchange × Service
  | [] => ([], first)
  | request :: earlier =>
    let (log, now) := replay first earlier
    let (outcome, left) := (answer request).run now
    (⟨now, request, outcome.toOption.getD unexpected, left⟩ :: log, left)

theorem served_replay (first : Service) (requests : List Request) :
    Served first (replay first requests).1 (replay first requests).2 := by
  induction requests with
  | nil => exact .made
  | cons request earlier ih =>
      have hcourse := course_run weather_refl (answer request) (replay first earlier).2
      obtain ⟨response, hresponse, -⟩ := answer_course hcourse
      rw [hresponse] at hcourse
      have hanswered : Served first (⟨_, request, response, _⟩ :: _) _ := .answered ih hcourse
      have htold : (((answer request).run (replay first earlier).2).1.toOption.getD
          unexpected) = response := by
        rw [hresponse]
        rfl
      rw [← htold] at hanswered
      exact hanswered

/-- Conditions in one another, so many of them below the first, each of them between two
shares. -/
def nested : Nat → Condition
  | 0 => ⟨some "high%", some ">=", .null, some "low%", none, [], none⟩
  | below + 1 => ⟨some "high%", some ">=", .null, some "low%", none, [nested below], none⟩

/-- A row with these conditions. -/
def nestedRow (below : Nat) : Row :=
  { Row.ofRule "first" .expert (Seed.rule "first" .expert) none 0 with
    conditions := .array (Condition.allToStored [nested below]) }

/-- A request to put the rule out of use. -/
def resting : Request where
  method := "PUT"
  path := "/classification/rules/first"
  headers := [("x-user-id", "admin")]
  body := some (.object [("is_active", .bool false)])

theorem pared_nested (below : Nat) : (nested below).pared = nested below := by
  induction below with
  | zero => rfl
  | succ below ih => simp [nested, Condition.pared, Condition.allPared, ih, nonempty?]

theorem fits_nested (below : Nat) : Condition.Fits (below + 1) (nested below) := by
  induction below with
  | zero => exact .mk rfl (List.forall_mem_nil _)
  | succ below ih => exact .mk rfl (List.forall_mem_singleton.mpr ih)

/-- No condition among them has a threshold. -/
theorem thresholds_nested (below : Nat) :
    ∀ threshold ∈ (nested below).thresholds, threshold = .null := by
  induction below with
  | zero => simp [nested, Condition.thresholds, Condition.allThresholds]
  | succ below ih => simpa [nested, Condition.thresholds, Condition.allThresholds] using ih

theorem nesting_nested (below : Nat) : (nested below).stored.nesting = below + 1 := by
  induction below with
  | zero => rfl
  | succ below ih =>
      rw [nested, Condition.stored, Condition.allStored, Condition.allStored,
        StoredCondition.nesting, StoredCondition.nestingOfAll, StoredCondition.nestingOfAll, ih,
        Nat.max_zero]

theorem readConditions_nestedRow {below : Nat} (hbelow : below < StoredCondition.maxNesting) :
    (nestedRow below).readConditions = .ok [nested below] := by
  show Condition.ofStoredList (.array (Condition.allToStored [nested below])) = _
  rw [Condition.ofStoredList_allToStored]
  · simp [Condition.allPared, pared_nested]
  · rw [Condition.allStored, Condition.allStored, StoredCondition.nestingOfAll,
      StoredCondition.nestingOfAll, nesting_nested, Nat.max_zero]
    exact hbelow

/-- A request whose body is no rule, and no change of conditions. -/
structure BringsNone (request : Request) : Prop where
  draft : ∀ draft, readBody RuleDraft.read request ≠ .valid draft
  change : ∀ change, readBody RuleChange.read request = .valid change → change.conditions = none

theorem BringsNone.brings {request : Request} (hnone : BringsNone request)
    (holds : List Condition → Prop) (endpoint : Endpoint) : Brings holds request endpoint := by
  cases endpoint with
  | createRule => exact fun draft hread => absurd hread (hnone.draft draft)
  | updateRule =>
      intro change hread conditions hconditions
      rw [hnone.change change hread] at hconditions
      cases hconditions
  | _ => trivial

theorem bringsNone_resting : BringsNone resting where
  draft _ h := by cases h
  change _ h := by
    cases h
    rfl

theorem bringsNone_oneHigh : BringsNone oneHigh where
  draft _ h := by cases h
  change _ h := by
    cases h
    rfl

theorem bringsNone_deletion (id : String) : BringsNone (deletion id) where
  draft _ h := by cases h
  change _ h := by cases h

theorem request_mem_of_replay {first : Service} {requests : List Request} :
    ∀ exchange ∈ (replay first requests).1, exchange.request ∈ requests := by
  induction requests with
  | nil => exact List.forall_mem_nil _
  | cons request earlier ih =>
      intro exchange hmem
      rcases List.mem_cons.mp hmem with rfl | hearlier
      · exact List.mem_cons_self
      · exact List.mem_cons_of_mem request (ih exchange hearlier)

/-- Nested conditions are those of a run on their row, if the requests bring none. -/
theorem holdsThroughout_replay {holds : List Condition → Prop} {below : Nat}
    {requests : List Request} (hbelow : below < StoredCondition.maxNesting)
    (hholds : holds [nested below])
    (hnone : ∀ request ∈ requests, BringsNone request) :
    HoldsThroughout holds (plainWith .empty [nestedRow below] [])
      (replay (plainWith .empty [nestedRow below] []) requests).1 where
  rows := by
    intro row hmem conditions hread
    cases List.mem_singleton.mp hmem
    rw [readConditions_nestedRow hbelow] at hread
    cases hread
    exact hholds
  bodies exchange hmem endpoint _ :=
    (hnone exchange.request (request_mem_of_replay exchange hmem)).brings holds endpoint

/-! ### Balance -/

/-- The counts after a run are numbers of answers. -/
structure Balances (first : Service) (log : List Exchange) (left : Service) : Prop where
  /-- Decisions are the answers that tell a tier, scope by scope. -/
  decided : ∀ scope tier,
    left.metrics.tally (.decided scope tier) = log.countP (·.tells scope tier)
  /-- Decisions that the cache has had are those that the answers say come from it. -/
  found : left.metrics.tally (.asked true) = log.countP (·.cached? == some true)
  /-- With the cache in use, an answer that does not come from it has asked in vain once. -/
  missed : ∀ exchange ∈ log, exchange.cached? = some false →
    exchange.now.config.resultCacheEnabled = true →
      exchange.left.metrics.tally (.asked false) = exchange.now.metrics.tally (.asked false) + 1
  /-- Changes of the rules are at least the answers that report one, and exactly these where
  all rules can be shown. -/
  changed_le : ∀ operation,
    log.countP (·.changes operation) ≤ left.metrics.tally (.changed operation)
  changed : ∀ operation, (operation = "create" ∨ operation = "update" →
      HoldsThroughout Condition.IsLow first log) →
    left.metrics.tally (.changed operation) = log.countP (·.changes operation)
  /-- Failures are the answers that report an error, code by code. -/
  failed : ∀ code, left.metrics.tally (.failed code) = log.countP (·.reports code)

/-- Events that enter nothing keep the balance. -/
theorem Balances.of_enters (hbalances : Balances first log now) (hentered : Enters [] now left)
    (hnamed : now.metrics.service = Meter.classificationService) : Balances first log left := by
  have hsame (entry : Entry) : left.metrics.tally entry = now.metrics.tally entry :=
    hentered.tally hnamed entry
  constructor
  · intro scope tier
    rw [hsame]
    exact hbalances.decided scope tier
  · rw [hsame]
    exact hbalances.found
  · exact hbalances.missed
  · intro operation
    rw [hsame]
    exact hbalances.changed_le operation
  · intro operation hlow
    rw [hsame]
    exact hbalances.changed operation hlow
  · intro code
    rw [hsame]
    exact hbalances.failed code

/-- An exchange that enters what its answer says keeps the balance. -/
theorem Balances.answered {exchange : Exchange} {entries : List Entry}
    (hbalances : Balances first log exchange.now)
    (hentered : Enters entries exchange.now exchange.left) (hexplains : exchange.Explains entries)
    (hnamed : exchange.now.metrics.service = Meter.classificationService)
    (hlow : HoldsThroughout Condition.IsLow first (exchange :: log) → exchange.IsLow) :
    Balances first (exchange :: log) exchange.left := by
  have hmore (entry : Entry) : exchange.left.metrics.tally entry =
      exchange.now.metrics.tally entry + entries.count entry :=
    hentered.tally hnamed entry
  constructor
  · intro scope tier
    rw [hmore, hbalances.decided, hexplains.tells, List.countP_cons]
  · rw [hmore, hbalances.found, hexplains.cached, List.countP_cons]
  · apply List.forall_mem_cons.mpr ⟨_, hbalances.missed⟩
    intro hsaid henabled
    rw [hmore, hexplains.uncached hsaid henabled]
  · intro operation
    rw [hmore, List.countP_cons]
    exact Nat.add_le_add (hbalances.changed_le operation) (hexplains.changes_le operation)
  · intro operation hlow'
    have hearlier : operation = "create" ∨ operation = "update" →
        HoldsThroughout Condition.IsLow first log := fun hnamed =>
      ⟨(hlow' hnamed).rows, (List.forall_mem_cons.mp (hlow' hnamed).bodies).2⟩
    rw [hmore, hbalances.changed operation hearlier,
      hexplains.changes operation fun hnamed => hlow (hlow' hnamed), List.countP_cons]
  · intro code
    rw [hmore, hbalances.failed, hexplains.reports, List.countP_cons]

/-- After every run of a service that has counted nothing before, whatever calls fail in it,
the counts are numbers of answers. -/
theorem balances_of_served (hfresh : first.metrics = .ofService Meter.classificationService)
    (hserved : Served first log left) : Balances first log left := by
  have hname {log : List Exchange} {left : Service} (hserved : Served first log left) :
      left.metrics.service = Meter.classificationService := by
    rw [hserved.service_eq, hfresh]
    rfl
  induction hserved with
  | made =>
      have hnone (entry : Entry) : first.metrics.tally entry = 0 := by
        rw [hfresh]
        rfl
      constructor
      · exact fun scope tier => hnone _
      · exact hnone _
      · exact List.forall_mem_nil _
      · exact fun operation => Nat.zero_le _
      · exact fun operation _ => hnone _
      · exact fun code => hnone _
  | started hserved hcourse ih =>
      exact ih.of_enters (enters_of_course hcourse enters_start) (hname hserved)
  | loaded hserved hcourse ih =>
      exact ih.of_enters (enters_of_course hcourse (enters_loadRules _)) (hname hserved)
  | answered hserved hcourse ih =>
      obtain ⟨entries, hentered, hexplains⟩ := Exchange.explained hcourse
      apply ih.answered hentered hexplains (hname hserved)
      intro hlow
      exact ((hserved.answered hcourse).isLow hlow).2 _ List.mem_cons_self

/-- Two classifications of the same counts, a change of the rule, its deletion, and one more
in vain, the latest first. -/
def fullDay : List Request :=
  [deletion "first", deletion "first", resting, oneHigh, oneHigh]

/-- Each of these is counted. -/
theorem balances_of_served_fullDay :
    ∃ log left, Served (plainWith .empty [nestedRow 1] []) log left ∧
      Balances (plainWith .empty [nestedRow 1] []) log left ∧
      HoldsThroughout Condition.IsLow (plainWith .empty [nestedRow 1] []) log ∧
      log.countP (·.tells "counts" "beginner") = 2 ∧
      log.countP (·.cached? == some true) = 1 ∧
      log.countP (·.changes "update") = 1 ∧
      log.countP (·.changes "delete") = 1 ∧
      log.countP (·.reports "RULE_NOT_FOUND") = 1 := by
  have hserved := served_replay (plainWith .empty [nestedRow 1] []) fullDay
  have hlow : Condition.IsLow [nested 1] :=
    Condition.isLow_of_fits (by decide) (List.forall_mem_singleton.mpr (fits_nested 1))
  have hnone : ∀ request ∈ fullDay, BringsNone request := by
    simp [fullDay, bringsNone_deletion, bringsNone_resting, bringsNone_oneHigh]
  refine ⟨_, _, hserved, balances_of_served rfl hserved, holdsThroughout_replay (by decide) hlow hnone, ?_⟩
  decide +kernel

/-- All thresholds are finite numbers, or missing. -/
def HasFiniteThresholds (conditions : List Condition) : Prop :=
  ∀ threshold ∈ Condition.allThresholds conditions,
    threshold = .null ∨ ∃ value, threshold = .number value ∧ threshold.isFinite = true

/-- Answering a request enters no other changes of rules than its handling. -/
theorem tally_changed_run (request : Request) (service : Service) (operation : String)
    (hnamed : ((nameRequest request >>= fun _ => dispatch request).run service).2.metrics.service =
      Meter.classificationService) :
    ((answer request).run service).2.metrics.tally (.changed operation) =
      ((nameRequest request >>= fun _ => dispatch request).run service).2.metrics.tally
        (.changed operation) := by
  rw [answer_eq, run_bind]
  rw [run_bind] at hnamed ⊢
  cases hname : (nameRequest request).run service with
  | mk named begun =>
      rw [hname] at hnamed
      cases named with
      | error failure => rfl
      | ok id =>
          dsimp only at hnamed ⊢
          rw [run_bind, run_attempt]
          cases hrun : (dispatch request).run begun with
          | mk inner handled =>
              rw [hrun] at hnamed
              obtain ⟨response, entries, -, hentered, hcloses⟩ :=
                closing_closes (course_run weather_refl (closing request id inner) handled)
              have hnone : entries.count (.changed operation) = 0 := by
                cases hcloses with
                | sends => rfl
                | reports => rfl
              exact (hentered.tally hnamed _).trans (congrArg _ hnone)

/-- Not every change that is counted is answered with success, even where all thresholds are
finite: a rule that is too high to be shown is changed all the same. -/
theorem not_changed_eq_answers :
    ¬ ∀ (first left : Service) (log : List Exchange),
      first.metrics = .ofService Meter.classificationService →
      HoldsThroughout HasFiniteThresholds first log → Served first log left →
      ∀ operation, left.metrics.tally (.changed operation) =
        log.countP (·.changes operation) := by
  intro hall
  have hthresholds : HasFiniteThresholds [nested 128] := by
    intro threshold hmem
    rw [Condition.allThresholds, Condition.allThresholds, List.append_nil] at hmem
    exact .inl (thresholds_nested 128 threshold hmem)
  have hserved := served_replay (plainWith .empty [nestedRow 128] []) [resting]
  have hthroughout := holdsThroughout_replay (by decide) hthresholds
    (List.forall_mem_singleton.mpr bringsNone_resting)
  have hsame := hall _ _ _ rfl hthroughout hserved "update"
  have hhandled := tally_changed_run resting (plainWith .empty [nestedRow 128] []) "update"
    (by decide +kernel)
  exact absurd (hhandled.symm.trans hsame) (by decide +kernel)

end Service

end SkillTiers
