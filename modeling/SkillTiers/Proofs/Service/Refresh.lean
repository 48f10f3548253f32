/-
# Refreshes at the same time

Requests that change rules share the service, in any order of their steps. Each
reads the table after it has written, but it puts what it read into the engine in a
step of its own, and by then the table may have changed again. `inStep_of_answers`
says what is left: when all requests have answered, the engine has the rules of the
table, provided that the last load which changed the engine put the rules of the
table into it, and that the engine had them at first or somebody renewed it.

The invariant is that the engine has the rules of the table, or some request still
owes it a renewal (`Owes`).
-/

import SkillTiers.Proofs.Rule.Digest
import SkillTiers.Proofs.Service.Renewal

namespace SkillTiers

namespace Service

open Job Renewal

variable {ι : Type} [DecidableEq ι]

/-- The engine has the rules of the table. -/
def InStep (service : Service) : Prop :=
  (service.store.tabled >>= RuleSet.build) = .ok service.engine.ruleSet

/-- All requests of a crew are there for changing rules. -/
def AllChange (crew : Crew ι Service Response) : Prop :=
  ∀ member, ∃ request endpoint ruleId, crew.jobs member = answer request ∧
    destinationOf crew.state request = .endpoint endpoint ruleId ∧ changesRules endpoint = true

/-- All requests have answered, and report success. -/
def AllSucceed (crew : Crew ι Service Response) (responses : ι → Response) : Prop :=
  ∀ member, (crew.jobs member).outcome? = some (.ok (responses member)) ∧
    IsSuccess (responses member).status

/-- The last turn that changed the rule set of the engine, if there is one, has put
the rules of the table into it. -/
def LastLoadCurrent (crew : Crew ι Service Response) (schedule : List ι) : Prop :=
  ∀ front member back, schedule = front ++ member :: back →
    (engineAfter crew (front ++ [member])).ruleSet ≠ (engineAfter crew front).ruleSet →
    (∀ turns, turns <+: back → (engineAfter crew (front ++ member :: turns)).ruleSet =
      (engineAfter crew (front ++ [member])).ruleSet) →
    InStep (crew.after (front ++ [member])).state

/-- The stages of all requests at a moment. -/
structure Renewing (crew : Crew ι Service Response) (schedule : List ι)
    (stages : ι → Renewal) : Prop where
  known : (Renewal.outline crew.state).known (crew.after schedule).state
  jobs : ∀ member, ((crew.after schedule).jobs member).Follows (Renewal.outline crew.state)
    (Responded Renewal.Answers) (stages member)

/-- A request will still bring the engine into step: it has changed rows and not yet
read them, or what it has read is still in the table, or it has not begun and will
not leave the rows as they are. -/
def Owes (writes : Prop) (stage : Renewal) (service : Service) : Prop :=
  stage = .changed ∨ (∃ rules, stage = .read rules ∧ service.store.tabled = .ok rules) ∨
    (stage = .fresh ∧ writes)

/-- The engine is in step, or some request owes it a renewal. -/
def Due (crew : Crew ι Service Response) (writes : ι → Prop) (schedule : List ι) : Prop :=
  ∃ stages, Renewing crew schedule stages ∧
    (InStep (crew.after schedule).state ∨
      ∃ member, Owes (writes member) (stages member) (crew.after schedule).state)

variable {crew : Crew ι Service Response} {schedule : List ι} {stages : ι → Renewal}

theorem renewing_start (hchange : AllChange crew) : Renewing crew [] fun _ => .fresh := by
  refine ⟨⟨rfl, rfl⟩, ?_⟩
  intro member
  obtain ⟨request, endpoint, ruleId, hjob, hleads, hchanges⟩ := hchange member
  rw [Crew.after_nil, hjob]
  exact answer_renews hleads hchanges

/-- A turn is one call of the request whose turn it is, or its work in memory. -/
theorem Renewing.turn (hrenewing : Renewing crew schedule stages) (member : ι) :
    ∃ later, Renewing crew (schedule ++ [member]) (Function.update stages member later) ∧
      (Calls (stages member) (crew.after schedule).state later
          (crew.after (schedule ++ [member])).state ∨
        Thinks (stages member) (crew.after schedule).state later
          (crew.after (schedule ++ [member])).state) := by
  let now := (crew.after schedule).state
  let invariant : Renewal → Service → Prop := fun later service =>
    Thinks (stages member) now later service
  obtain ⟨hrole, hconfig⟩ := hrenewing.known
  have hknown (service : Service)
      (hsettings : service.role = now.role ∧ service.config = now.config) :
      (Renewal.outline crew.state).known service :=
    ⟨hsettings.1.trans hrole, hsettings.2.trans hconfig⟩
  obtain ⟨later, hleft, hturn⟩ := (hrenewing.jobs member).turn
    (fun _ service (hthinks : invariant _ service) => hknown service hthinks.settings)
    (fun _ _ _ _ hthinks hmove => hthinks.trans hmove) (.idle (idle_refl now))
  rw [Crew.after_concat]
  refine ⟨later, ⟨?_, ?_⟩, hturn⟩
  · rw [Crew.after_concat]
    rcases hturn with hcall | hthinks
    · exact hknown _ (Calls.settings hcall)
    · exact hknown _ hthinks.settings
  · intro other
    rw [Crew.after_concat]
    by_cases hsame : other = member
    · rw [hsame, Crew.turn_jobs_self, Function.update_self]
      exact hleft
    · rw [Crew.turn_jobs_of_ne _ hsame, Function.update_of_ne hsame]
      exact hrenewing.jobs other

/-- After a turn the request owes a renewal, or the turn changed nothing, or it put
rules into the engine that the request had read. -/
theorem turn_cases {stage later : Renewal} {service left : Service}
    (hturn : Calls stage service later left ∨ Thinks stage service later left) :
    Owes False later left ∨
      (later = stage ∧ left.store.tabled = service.store.tabled ∧
        left.engine.ruleSet = service.engine.ruleSet) ∨
      ∃ rules, stage = .read rules ∧ left.store.tabled = service.store.tabled ∧
        RuleSet.build rules = .ok left.engine.ruleSet := by
  rcases hturn with hcall | hthinks
  · cases hcall with
    | idle hidle =>
        exact .inr (.inl ⟨rfl, Store.tabled_congr hidle.rows, congrArg _ hidle.engine⟩)
    | write => exact .inl (.inl rfl)
    | fetch hidle hrules =>
        exact .inl (.inr (.inl ⟨_, rfl, (Store.tabled_congr hidle.rows).trans hrules⟩))
  · cases hthinks with
    | idle hidle =>
        exact .inr (.inl ⟨rfl, Store.tabled_congr hidle.rows, congrArg _ hidle.engine⟩)
    | load hrole hconfig hrows hbuild =>
        exact .inr (.inr ⟨_, rfl, Store.tabled_congr hrows, hbuild⟩)

theorem Owes.mono {writes writes' : Prop} {stage : Renewal} {service : Service}
    (howes : Owes writes stage service) (hwrites : writes → writes') :
    Owes writes' stage service := by
  rcases howes with hchanged | hread | ⟨hfresh, h⟩
  · exact .inl hchanged
  · exact .inr (.inl hread)
  · exact .inr (.inr ⟨hfresh, hwrites h⟩)

/-- What a request owes depends on the table alone. -/
theorem Owes.congr {writes : Prop} {stage : Renewal} {service left : Service}
    (howes : Owes writes stage service) (htabled : left.store.tabled = service.store.tabled) :
    Owes writes stage left := by
  rcases howes with hchanged | ⟨rules, hread, hrules⟩ | hfresh
  · exact .inl hchanged
  · exact .inr (.inl ⟨rules, hread, htabled.trans hrules⟩)
  · exact .inr (.inr hfresh)

theorem InStep.congr {service left : Service} (hstep : InStep service)
    (htabled : left.store.tabled = service.store.tabled)
    (hruleSet : left.engine.ruleSet = service.engine.ruleSet) : InStep left := by
  unfold InStep at hstep ⊢
  rw [htabled, hruleSet]
  exact hstep

/-- A turn that leaves the rule set of the engine as it is does not put it out of
step without a request that owes a renewal. -/
theorem Due.turn {writes : ι → Prop} (hdue : Due crew writes schedule) (member : ι)
    (hsame : (engineAfter crew (schedule ++ [member])).ruleSet =
      (engineAfter crew schedule).ruleSet) : Due crew writes (schedule ++ [member]) := by
  obtain ⟨stages, hrenewing, hstep⟩ := hdue
  obtain ⟨later, hlater, hturn⟩ := hrenewing.turn member
  refine ⟨Function.update stages member later, hlater, ?_⟩
  rcases turn_cases hturn with howes | ⟨hstays, htabled, -⟩ | ⟨rules, hread, htabled, hbuild⟩
  · right
    refine ⟨member, ?_⟩
    rw [Function.update_self]
    exact howes.mono False.elim
  · rw [hstays, Function.update_eq_self]
    rcases hstep with hstep | ⟨other, howes⟩
    · exact .inl (hstep.congr htabled hsame)
    · exact .inr ⟨other, howes.congr htabled⟩
  · rcases hstep with hstep | ⟨other, howes⟩
    · exact .inl (hstep.congr htabled hsame)
    · by_cases hmember : other = member
      · -- What the request has read is still in the table, or it owes nothing.
        left
        rw [hmember, hread] at howes
        rcases howes with hchanged | ⟨current, hcurrent, hrules⟩ | ⟨hfresh, -⟩
        · cases hchanged
        · cases hcurrent
          unfold InStep
          rw [htabled, hrules]
          exact hbuild
        · cases hfresh
      · right
        refine ⟨other, ?_⟩
        rw [Function.update_of_ne hmember]
        exact howes.congr htabled

/-- As long as the rule set of the engine stays as it is, it is in step or some
request owes a renewal. -/
theorem Due.turns {writes : ι → Prop} (hdue : Due crew writes schedule) (turns : List ι)
    (hsame : ∀ front, front <+: turns →
      (engineAfter crew (schedule ++ front)).ruleSet = (engineAfter crew schedule).ruleSet) :
    Due crew writes (schedule ++ turns) := by
  induction turns using List.reverseRecOn with
  | nil =>
      rw [List.append_nil]
      exact hdue
  | append_singleton front member ih =>
      have hfront := ih fun early hearly => hsame early (hearly.trans (List.prefix_append _ _))
      rw [← List.append_assoc]
      apply hfront.turn member
      rw [List.append_assoc, hsame _ List.prefix_rfl, hsame _ (List.prefix_append _ _)]

/-- At every moment all requests have a stage. -/
theorem exists_renewing (hchange : AllChange crew) (schedule : List ι) :
    ∃ stages, Renewing crew schedule stages := by
  induction schedule using List.reverseRecOn with
  | nil => exact ⟨_, renewing_start hchange⟩
  | append_singleton front member ih =>
      obtain ⟨stages, hrenewing⟩ := ih
      obtain ⟨later, hlater, -⟩ := hrenewing.turn member
      exact ⟨_, hlater⟩

/-- When all requests have answered, none owes a renewal. -/
theorem Due.inStep {responses : ι → Response} (hdone : AllSucceed (crew.after schedule) responses)
    (hdue : Due crew (fun member => ¬ NoneSeeded (responses member).body) schedule) :
    InStep (crew.after schedule).state := by
  obtain ⟨stages, hrenewing, hstep⟩ := hdue
  rcases hstep with hstep | ⟨member, howes⟩
  · exact hstep
  · exfalso
    obtain ⟨hended, hsuccess⟩ := hdone member
    have hallowed : stages member = .renewed ∨
        (stages member = .fresh ∧ NoneSeeded (responses member).body) := by
      have hjob := hrenewing.jobs member
      cases hleft : (crew.after schedule).jobs member with
      | done outcome =>
          rw [hleft] at hended hjob
          exact hjob (responses member) (Option.some.inj hended) hsuccess
      | touch act next =>
          rw [hleft] at hended
          cases hended
      | call act next =>
          rw [hleft] at hended
          cases hended
    rcases hallowed with hrenewed | ⟨hfresh, hnone⟩
    · rw [hrenewed] at howes
      rcases howes with h | ⟨rules, h, -⟩ | ⟨h, -⟩ <;> cases h
    · rw [hfresh] at howes
      rcases howes with h | ⟨rules, h, -⟩ | ⟨-, hwrites⟩
      · cases h
      · cases h
      · exact hwrites hnone

/-- Requests that change rules share a service, in any order of all steps. When all
have reported success, the engine has the rules of the table, if the last load that
changed its rule set put the rules of the table into it, and if it had the rules of
the table at first or some request did not merely report that nothing was seeded. -/
theorem inStep_of_answers {responses : ι → Response} (hchange : AllChange crew)
    (hdone : AllSucceed (crew.after schedule) responses)
    (hstart : InStep crew.state ∨ ∃ member, ¬ NoneSeeded (responses member).body)
    (hlast : LastLoadCurrent crew schedule) : InStep (crew.after schedule).state := by
  apply Due.inStep hdone
  rcases Crew.last_change (fun front => (engineAfter crew front).ruleSet) schedule with
    hsame | ⟨front, member, back, rfl, hchanged, hsame⟩
  · have hdue : Due crew (fun member => ¬ NoneSeeded (responses member).body) [] := by
      refine ⟨_, renewing_start hchange, ?_⟩
      rcases hstart with hstep | ⟨member, hwrites⟩
      · exact .inl hstep
      · exact .inr ⟨member, .inr (.inr ⟨rfl, hwrites⟩)⟩
    exact hdue.turns schedule hsame
  · obtain ⟨stages, hrenewing⟩ := exists_renewing hchange (front ++ [member])
    have hdue : Due crew (fun member => ¬ NoneSeeded (responses member).body)
        (front ++ [member]) :=
      ⟨stages, hrenewing, .inl (hlast front member back rfl hchanged hsame)⟩
    have hturns := hdue.turns back fun turns hturns => by
      rw [List.append_assoc]
      exact hsame turns hturns
    rw [List.append_assoc] at hturns
    exact hturns

/-- A rule for experts without conditions. -/
def bareRule (id : String) : Rule :=
  ⟨id, "expert", [], 0, true⟩

/-- Its row. -/
def bareRow (id : String) : Row :=
  .ofRule id .expert (bareRule id) none 0

/-- A service with these rules in its table and in its engine. -/
def bareService (ids : List String) : Service :=
  plainWith (.ofRules (ids.map bareRule)) (ids.map bareRow) []

/-- Two of three rules are deleted at the same time. -/
def twoDeletions : Crew Bool Service Response where
  state := bareService ["first", "second", "kept"]
  jobs := fun isFirst => answer (deletion (if isFirst then "first" else "second"))

theorem allChange_twoDeletions : AllChange twoDeletions := by
  intro isFirst
  cases isFirst with
  | true => exact ⟨_, _, _, rfl, rfl, rfl⟩
  | false => exact ⟨_, _, _, rfl, rfl, rfl⟩

/-- The second request deletes before the first one loads what it has read, and
reads and loads after it. -/
def inTurn : List Bool :=
  List.replicate 3 true ++ List.replicate 2 false ++ [true] ++
    List.replicate 5 false ++ List.replicate 8 true

/-- The first request deletes and reads, the second one does everything, and then
the first goes on. -/
def overtaking : List Bool :=
  List.replicate 3 true ++ List.replicate 8 false ++ List.replicate 6 true

/-- Whether an outcome is an answer of success. -/
private def isAnswered (outcome? : Option (Outcome Response)) : Bool :=
  match outcome? with
  | some (.ok response) => 200 ≤ response.status && response.status < 300
  | _ => false

private theorem exists_allSucceed {crew : Crew Bool Service Response}
    (hanswered : ∀ isFirst, isAnswered (crew.jobs isFirst).outcome? = true) :
    ∃ responses, AllSucceed crew responses := by
  have hresponse (isFirst : Bool) : ∃ response,
      (crew.jobs isFirst).outcome? = some (.ok response) ∧ IsSuccess response.status := by
    have h := hanswered isFirst
    unfold isAnswered at h
    split at h
    · rename_i response hended
      obtain ⟨hlow, hhigh⟩ := Bool.and_eq_true_iff.mp h
      exact ⟨response, hended, of_decide_eq_true hlow, of_decide_eq_true hhigh⟩
    · cases h
  choose responses hresponses using hresponse
  exact ⟨responses, hresponses⟩

/-! Rules can hold any thresholds, so that there is no test of whether two of them are
the same. For rules without conditions there is one. -/

/-- Whether two rules without conditions are the same. -/
private def isSameRule (first second : Rule) : Bool :=
  first.conditions.isEmpty && second.conditions.isEmpty && first.id == second.id &&
    first.level == second.level && first.displayOrder == second.displayOrder &&
    first.isActive == second.isActive

/-- Whether two rule sets of such rules are the same. -/
private def isSameSet (first second : RuleSet) : Bool :=
  first.rules.isEqv second.rules isSameRule &&
    first.chosen.isEqv second.chosen (fun one other => one.tier == other.tier &&
      isSameRule one.rule other.rule && one.expression == other.expression) &&
    first.version == second.version

private theorem eq_of_isEqv {α : Type} {isSame : α → α → Bool}
    (hsame : ∀ a b, isSame a b = true → a = b) {first second : List α}
    (h : first.isEqv second isSame = true) : first = second := by
  induction first generalizing second with
  | nil =>
      cases second with
      | nil => rfl
      | cons b second => cases h
  | cons a first ih =>
      cases second with
      | nil => cases h
      | cons b second =>
          obtain ⟨hitem, hrest⟩ := Bool.and_eq_true_iff.mp h
          rw [hsame a b hitem, ih hrest]

private theorem eq_of_isSameRule (first second : Rule) (h : isSameRule first second = true) :
    first = second := by
  obtain ⟨id, level, conditions, order, isActive⟩ := first
  obtain ⟨id', level', conditions', order', isActive'⟩ := second
  simp only [isSameRule, Bool.and_eq_true, List.isEmpty_iff, beq_iff_eq] at h
  obtain ⟨⟨⟨⟨⟨rfl, rfl⟩, rfl⟩, rfl⟩, rfl⟩, rfl⟩ := h
  rfl

private theorem eq_of_isSameSet {first second : RuleSet} (h : isSameSet first second = true) :
    first = second := by
  obtain ⟨rules, chosen, version⟩ := first
  obtain ⟨rules', chosen', version'⟩ := second
  simp only [isSameSet, Bool.and_eq_true, beq_iff_eq] at h
  obtain ⟨⟨hrules, hchosen⟩, rfl⟩ := h
  rw [eq_of_isEqv eq_of_isSameRule hrules]
  congr 1
  refine eq_of_isEqv (fun one other hsame => ?_) hchosen
  obtain ⟨tier, rule, expression⟩ := one
  obtain ⟨tier', rule', expression'⟩ := other
  simp only [Bool.and_eq_true, beq_iff_eq] at hsame
  obtain ⟨⟨rfl, hrule⟩, rfl⟩ := hsame
  rw [eq_of_isSameRule _ _ hrule]

/-- Whether the table and the engine have these rules. -/
private def hasRules (ids : List String) (service : Service) : Bool :=
  match service.store.tabled with
  | .ok rules => rules.isEqv (ids.map bareRule) isSameRule &&
      isSameSet service.engine.ruleSet (.ofRules (ids.map bareRule))
  | .error _ => false

private theorem inStep_of_hasRules {ids : List String} {service : Service}
    (hbuilds : (RuleSet.build (ids.map bareRule)).toOption.isSome = true)
    (hrules : hasRules ids service = true) : InStep service := by
  unfold hasRules at hrules
  split at hrules
  · rename_i rules htabled
    obtain ⟨hsame, hset⟩ := Bool.and_eq_true_iff.mp hrules
    unfold InStep
    rw [htabled, eq_of_isEqv eq_of_isSameRule hsame, eq_of_isSameSet hset]
    exact RuleSet.build_ofRules hbuilds
  · cases hrules

theorem inStep_twoDeletions : InStep twoDeletions.state := by
  have hrules : hasRules ["first", "second", "kept"] twoDeletions.state = true := by
    decide +kernel
  exact inStep_of_hasRules (by decide +kernel) hrules

/-- The first request puts a rule back that is gone, and the second one, which loads
last, takes it out: the engine has the one rule that is kept. -/
theorem inStep_of_two_deletions :
    LastLoadCurrent twoDeletions inTurn ∧
      ((engineAfter twoDeletions (inTurn.take 7)).ruleSet.rules.map (·.id) =
        ["second", "kept"]) ∧
      ((engineAfter twoDeletions inTurn).ruleSet.rules.map (·.id) = ["kept"]) ∧
      InStep (twoDeletions.after inTurn).state := by
  have hlast : LastLoadCurrent twoDeletions inTurn := by
    intro front member back hschedule _ hstays
    have hends := hstays back List.prefix_rfl
    rw [← hschedule] at hends
    have hfront : front ++ [member] ∈ inTurn.inits :=
      (List.mem_inits _ _).mpr ⟨back, by rw [hschedule, List.append_assoc]; rfl⟩
    have hkept : ∀ front ∈ inTurn.inits,
        (engineAfter twoDeletions inTurn).ruleSet.rules.length =
          (engineAfter twoDeletions front).ruleSet.rules.length →
        hasRules ["kept"] (twoDeletions.after front).state = true := by decide +kernel
    exact inStep_of_hasRules (by decide +kernel)
      (hkept _ hfront (congrArg (·.rules.length) hends))
  obtain ⟨responses, hdone⟩ := exists_allSucceed
    (show ∀ isFirst, isAnswered
      ((twoDeletions.after inTurn).jobs isFirst).outcome? = true by decide +kernel)
  exact ⟨hlast, by decide +kernel, by decide +kernel,
    inStep_of_answers allChange_twoDeletions hdone (.inl inStep_twoDeletions) hlast⟩

/-- Two requests to seed a store that has a row, while the engine has no rules. -/
def seededTwice : Crew Bool Service Response where
  state := plainWith .empty [bareRow "kept"] []
  jobs := fun _ => answer {
    method := "POST"
    path := "/classification/rules/defaults"
    headers := [("x-user-id", "admin")]
    body := none }

/-- How many rules the engine has when it is in step. -/
theorem InStep.length_rules {service : Service} (hstep : InStep service) :
    (service.store.tabled >>= RuleSet.build).toOption.map (·.rules.length) =
      some service.engine.ruleSet.rules.length := by
  rw [hstep]
  rfl

/-- An engine can be left with rules that are gone: what one request has read is put
into the engine after what another has read later. And requests that seed nothing do
not bring an engine into step. -/
theorem inStep_of_answers_outdated :
    (AllChange twoDeletions ∧ InStep twoDeletions.state ∧
      twoDeletions.state.store.outage = .never ∧
      (∃ responses, AllSucceed (twoDeletions.after overtaking) responses) ∧
      ¬ InStep (twoDeletions.after overtaking).state) ∧
    (AllChange seededTwice ∧ seededTwice.state.store.outage = .never ∧
      (∃ responses, AllSucceed (seededTwice.after overtaking) responses) ∧
      ¬ InStep (seededTwice.after overtaking).state) := by
  refine ⟨⟨allChange_twoDeletions, inStep_twoDeletions, rfl, exists_allSucceed ?_,
    fun hstep => ?_⟩, fun _ => ⟨_, _, _, rfl, rfl, rfl⟩, rfl, exists_allSucceed ?_,
    fun hstep => ?_⟩
  · decide +kernel
  · exact absurd hstep.length_rules (by decide +kernel)
  · decide +kernel
  · exact absurd hstep.length_rules (by decide +kernel)

end Service

end SkillTiers
