/-
# Failing calls of the database

What an action does under a plan of outages depends on the number of its calls alone
(`Makes`): a plan that spares them changes nothing but itself, and a fault of any of them
ends the action with that fault, or with what the action reports for it. Actions that are
put together from calls are of this kind (`Planned`), and so is everything the store is
asked for. Where a call of one of these fails, no row changes. Faults of the database itself
are reported as failures of the store, and faults of the operating system are not
(`Access.run_of_outage`), although connecting reports both.
-/

import SkillTiers.Proofs.Store.Operation

namespace SkillTiers

namespace Store

variable {α β : Type}

/-- The store with another plan of outages. -/
def under (store : Store) (plan : Outage) : Store :=
  { store with outage := plan }

/-! ### Actions under a plan -/

/-- From this store the action makes so many calls, if all go well, and ends so; a fault of
any of them ends it with what is told for the fault. -/
structure Makes (told : Fault → Failure) (action : Action α) (store : Store) (calls : Nat)
    (outcome : Outcome α) (left : Store) : Prop where
  well : ∀ fault after times, action (store.under ⟨fault, calls + after, times⟩) =
    (outcome, left.under ⟨fault, after, times⟩)
  ill : ∀ fault after times, after < calls →
    (action (store.under ⟨fault, after, times + 1⟩)).1 = .error (told fault)

/-- What the action does under a plan depends on the number of its calls alone. -/
def Planned (told : Fault → Failure) (action : Action α) : Prop :=
  ∀ store, ∃ calls outcome left, Makes told action store calls outcome left

/-- The action makes no calls. -/
def Quiet (action : Action α) : Prop :=
  ∀ store : Store, ∃ (outcome : Outcome α) (left : Store), ∀ plan,
    action (store.under plan) = (outcome, left.under plan)

/-- What is reported for a fault in a session. -/
def reported (message : String) (fault : Fault) : Failure :=
  if fault.isDatabase then failure message fault else .fault fault

/-- What a session makes of an outcome. -/
def retold (message : String) : Outcome α → Outcome α
  | .error (.fault fault) => .error (reported message fault)
  | outcome => outcome

theorem quiet_ofOutcome (outcome : Outcome α) : Quiet (Action.ofOutcome outcome) :=
  fun store => ⟨outcome, store, fun _ => rfl⟩

theorem Quiet.planned {action : Action α} (hquiet : Quiet action) (told : Fault → Failure) :
    Planned told action := by
  intro store
  obtain ⟨outcome, left, hresult⟩ := hquiet store
  refine ⟨0, outcome, left, fun fault after times => ?_, fun _ _ _ hnone => ?_⟩
  · rw [Nat.zero_add, hresult]
  · exact absurd hnone (Nat.not_lt_zero _)

theorem Quiet.call {action : Action α} (hquiet : Quiet action) :
    Planned .fault (call action) := by
  intro store
  obtain ⟨outcome, left, hresult⟩ := hquiet store
  refine ⟨1, outcome, left, fun fault after times => ?_, fun fault after times hfirst => ?_⟩
  · rw [Nat.add_comm]
    exact hresult ⟨fault, after, times⟩
  · rw [Nat.lt_one_iff.mp hfirst]
    rfl

theorem planned_ofOutcome (told : Fault → Failure) (outcome : Outcome α) :
    Planned told (Action.ofOutcome outcome) :=
  (quiet_ofOutcome outcome).planned told

theorem planned_query (read : List Row → α) : Planned .fault (query read) :=
  Quiet.call fun store => ⟨.ok (read store.rows), store, fun _ => rfl⟩

theorem planned_execute (write : Instant → List Row → Outcome (α × List Row)) :
    Planned .fault (execute write) := by
  refine Quiet.call fun store => ?_
  cases hwrite : write (store.clock + 1) store.rows with
  | error cause =>
      refine ⟨.error cause, { store with clock := store.clock + 1 }, fun plan => ?_⟩
      simp only [under, hwrite]
  | ok written =>
      refine ⟨.ok written.1, { store with rows := written.2, clock := store.clock + 1 },
        fun plan => ?_⟩
      simp only [under, hwrite]

theorem bind_error {action : Action α} {store : Store} {cause : Failure}
    (hfirst : (action store).1 = .error cause) (rest : α → Action β) :
    ((action >>= rest) store).1 = .error cause := by
  show (Action.bind action rest store).1 = _
  unfold Action.bind
  cases hresult : action store with
  | mk outcome left =>
      rw [hresult] at hfirst
      cases hfirst
      rfl

theorem bind_of_ok {action : Action α} {store mid : Store} {value : α}
    (hfirst : action store = (.ok value, mid)) (rest : α → Action β) :
    (action >>= rest) store = rest value mid := by
  show Action.bind action rest store = _
  unfold Action.bind
  rw [hfirst]

theorem bind_of_error {action : Action α} {store left : Store} {cause : Failure}
    (hfirst : action store = (.error cause, left)) (rest : α → Action β) :
    (action >>= rest) store = (.error cause, left) := by
  show Action.bind action rest store = _
  unfold Action.bind
  rw [hfirst]

/-- The calls of two actions, one after the other, are added. -/
theorem Planned.bind {told : Fault → Failure} {action : Action α} {rest : α → Action β}
    (haction : Planned told action) (hrest : ∀ value, Planned told (rest value)) :
    Planned told (action >>= rest) := by
  intro store
  obtain ⟨calls, outcome, mid, hmakes⟩ := haction store
  cases outcome with
  | error cause =>
      exact ⟨calls, .error cause, mid,
        fun fault after times => bind_of_error (hmakes.well fault after times) rest,
        fun fault after times hless => bind_error (hmakes.ill fault after times hless) rest⟩
  | ok value =>
      obtain ⟨others, outcome, left, hothers⟩ := hrest value mid
      refine ⟨calls + others, outcome, left, fun fault after times => ?_,
        fun fault after times hless => ?_⟩
      · rw [Nat.add_assoc, bind_of_ok (hmakes.well fault (others + after) times)]
        exact hothers.well fault after times
      · by_cases hfirst : after < calls
        · exact bind_error (hmakes.ill fault after times hfirst) rest
        · obtain ⟨later, rfl⟩ := Nat.exists_eq_add_of_le (Nat.not_lt.mp hfirst)
          rw [bind_of_ok (hmakes.well fault later (times + 1))]
          exact hothers.ill fault later times (by omega)

/-- A session tells of the faults of the database in its own words. -/
theorem Planned.session {action : Action α} (haction : Planned .fault action)
    (message : String) : Planned (reported message) (session message action) := by
  intro store
  cases hconnected : store.isConnected with
  | false =>
      refine ⟨0, .error notStarted, store, fun fault after times => ?_,
        fun _ _ _ hnone => absurd hnone (Nat.not_lt_zero _)⟩
      rw [Nat.zero_add]
      exact if_neg (Bool.eq_false_iff.mp hconnected)
  | true =>
      obtain ⟨calls, outcome, left, hmakes⟩ := haction store
      have hopen (plan : Outage) : Store.session message action (store.under plan) =
          action.reporting Fault.isDatabase (failure message) (store.under plan) :=
        if_pos hconnected
      have htold (fault : Fault) (after times : Nat) (hless : after < calls) :
          (Store.session message action (store.under ⟨fault, after, times + 1⟩)).1 =
            .error (reported message fault) := by
        have hill := hmakes.ill fault after times hless
        rw [hopen]
        unfold Action.reporting
        cases hresult : action (store.under ⟨fault, after, times + 1⟩) with
        | mk inner mid =>
            rw [hresult] at hill
            cases hill
            rfl
      have hwell (fault : Fault) (after times : Nat) :
          Store.session message action (store.under ⟨fault, calls + after, times⟩) =
            (retold message outcome, left.under ⟨fault, after, times⟩) := by
        rw [hopen, Action.reporting, hmakes.well]
        cases outcome with
        | ok value => rfl
        | error cause => cases cause <;> rfl
      exact ⟨calls, retold message outcome, left, hwell, htold⟩

/-- A transaction makes the calls of its action. -/
theorem Planned.transaction {told : Fault → Failure} {action : Action α}
    (haction : Planned told action) : Planned told (transaction action) := by
  intro store
  obtain ⟨calls, outcome, left, hmakes⟩ := haction store
  have hill (fault : Fault) (after times : Nat) (hless : after < calls) :
      (Store.transaction action (store.under ⟨fault, after, times + 1⟩)).1 =
        .error (told fault) := by
    have hfirst := hmakes.ill fault after times hless
    unfold Store.transaction
    cases hresult : action (store.under ⟨fault, after, times + 1⟩) with
    | mk inner mid =>
        rw [hresult] at hfirst
        cases hfirst
        rfl
  cases outcome with
  | ok value =>
      refine ⟨calls, .ok value, left, fun fault after times => ?_, hill⟩
      rw [Store.transaction, hmakes.well]
  | error cause =>
      refine ⟨calls, .error cause, { left with rows := store.rows },
        fun fault after times => ?_, hill⟩
      rw [Store.transaction, hmakes.well]
      rfl

/-! ### The operations of the store -/

theorem planned_fetchAll : Planned (reported "Failed to load rules") fetchAll := by
  refine Planned.session ?_ _
  exact (planned_query Row.active).bind fun _ => planned_ofOutcome _ _

theorem planned_get (id : String) : Planned (reported "Failed to load rule") (get id) := by
  refine Planned.session ((planned_query _).bind fun row? => ?_) _
  cases row? with
  | none => exact planned_ofOutcome _ (.ok none)
  | some row =>
      exact (planned_ofOutcome _ row.toRule).bind
        fun stored => planned_ofOutcome _ (.ok (some stored))

theorem planned_count : Planned (reported "Failed to count rules") count :=
  (planned_query List.length).session _

theorem quiet_nameRule : Quiet nameRule :=
  fun store => ⟨(nameRule store).1, (nameRule store).2, fun _ => rfl⟩

theorem quiet_nameSeeds (seeds : Nat → List Rule) : Quiet (nameSeeds seeds) :=
  fun store => ⟨(nameSeeds seeds store).1, (nameSeeds seeds store).2, fun _ => rfl⟩

theorem planned_insert (rule : Rule) (actor : Option String) :
    Planned .fault (insert rule actor) := by
  have hrest (id : String) : Planned .fault (do
      let tier ← Action.ofOutcome rule.tier
      Action.ofOutcome rule.storedConditions.checkText
      let row ← execute fun now rows => insertRow (.ofRule id tier rule actor now) rows
      Action.ofOutcome row.toRule : Action StoredRule) :=
    (planned_ofOutcome _ _).bind fun _ => (planned_ofOutcome _ _).bind fun _ =>
      (planned_execute _).bind fun row => planned_ofOutcome _ row.toRule
  unfold insert
  dsimp only
  split
  · exact (quiet_nameRule.planned _).bind hrest
  · exact hrest rule.id

theorem planned_create (rule : Rule) (actor : Option String) :
    Planned (reported "Failed to create rule") (create rule actor) :=
  (planned_insert rule actor).session _

theorem planned_update (id : String) (update : RuleUpdate) (actor : Option String) :
    Planned (reported "Failed to update rule") (Store.update id update actor) := by
  refine (planned_ofOutcome _ update.check).bind fun _ => ?_
  refine ((planned_execute _).session _).bind fun row? => ?_
  cases row? with
  | none => exact planned_ofOutcome _ (.error (notFound id))
  | some row => exact planned_ofOutcome _ row.toRule

theorem planned_delete (id : String) :
    Planned (reported "Failed to delete rule") (delete id) :=
  ((planned_execute _).session _).bind fun _ => planned_ofOutcome _ _

theorem planned_placeAll (actor : Option String) (places : List (String × Int)) :
    Planned .fault (placeAll actor places) := by
  induction places with
  | nil => exact planned_ofOutcome _ (.ok ())
  | cons place rest ih => exact (planned_execute _).bind fun _ => ih

theorem planned_reorder (places : List (String × Int)) (actor : Option String) :
    Planned (reported "Failed to reorder rules") (reorder places actor) :=
  (planned_placeAll actor places).transaction.session _

theorem planned_insertAll (actor : Option String) (rules : List Rule) :
    Planned .fault (insertAll actor rules) := by
  induction rules with
  | nil => exact planned_ofOutcome _ (.ok [])
  | cons rule rest ih =>
      exact (planned_insert rule actor).bind fun stored =>
        ih.bind fun others => planned_ofOutcome _ (.ok (stored :: others))

theorem planned_seedEmpty (actor : String) : Planned .fault (seedEmpty actor) := by
  refine (planned_query _).bind fun _ => (planned_query hasRows).bind fun some? => ?_
  cases some? with
  | true => exact planned_ofOutcome _ (.ok [])
  | false => exact ((quiet_nameSeeds _).planned _).bind fun rules => planned_insertAll actor rules

theorem planned_seed (actor : Option String) :
    Planned (reported "Failed to seed default rules") (seed actor) := by
  unfold seed
  cases nonempty? actor with
  | none => exact planned_ofOutcome _ (.ok [])
  | some actor => exact (planned_seedEmpty actor).transaction.session _

/-- What the store can be asked for, to read its table or to change it. -/
inductive Access where
  | fetchAll
  | get (id : String)
  | count
  | change (operation : Operation)

namespace Access

/-- Does it, and gives back the rules that come of it. -/
def run : Access → Action (List StoredRule)
  | .fetchAll => Store.fetchAll
  | .get id => do return (← Store.get id).toList
  | .count => do
    let _ ← Store.count
    return []
  | .change operation => operation.run

/-- What is reported when it fails for want of the database. -/
def message : Access → String
  | .fetchAll => "Failed to load rules"
  | .get _ => "Failed to load rule"
  | .count => "Failed to count rules"
  | .change (.create ..) => "Failed to create rule"
  | .change (.update ..) => "Failed to update rule"
  | .change (.delete _) => "Failed to delete rule"
  | .change (.reorder ..) => "Failed to reorder rules"
  | .change (.seed _) => "Failed to seed default rules"

theorem planned_run (access : Access) : Planned (reported access.message) access.run := by
  cases access with
  | fetchAll => exact planned_fetchAll
  | get id => exact (planned_get id).bind fun stored? => planned_ofOutcome _ (.ok stored?.toList)
  | count => exact planned_count.bind fun _ => planned_ofOutcome _ (.ok [])
  | change operation =>
      cases operation with
      | create rule actor =>
          exact (planned_create rule actor).bind fun stored => planned_ofOutcome _ (.ok [stored])
      | update id change actor =>
          exact (planned_update id change actor).bind
            fun stored => planned_ofOutcome _ (.ok [stored])
      | delete id => exact (planned_delete id).bind fun _ => planned_ofOutcome _ (.ok [])
      | reorder places actor =>
          exact (planned_reorder places actor).bind fun _ => planned_ofOutcome _ (.ok [])
      | seed actor => exact planned_seed actor

end Access

/-! ### A failing call -/

/-- An operation that fails, but neither on account of the data in a row nor for want of the
rule that it is about, has not changed a row. -/
theorem Operation.rows_of_error {operation : Operation} {store left : Store} {cause : Failure}
    (hdata : ¬ cause.IsOfData) (hfound : ∀ id, cause ≠ notFound id)
    (hresult : operation.run store = (.error cause, left)) : left.rows = store.rows := by
  have hrow (row : Row) : row.toRule ≠ .error cause :=
    fun hfail => hdata (Row.failsWithin_toRule row cause hfail)
  cases operation with
  | create rule actor =>
      rcases bind_cases hresult with ⟨_, hsame, hfail⟩ | ⟨_, _, -, hdone⟩
      · cases hsame
        rcases create_cases hfail with ⟨_, -, hrows⟩ | ⟨row, -, -, -, -, htold⟩
        · exact hrows
        · exact absurd htold.symm (hrow row)
      · cases hdone
  | update id change actor =>
      rcases bind_cases hresult with ⟨_, hsame, hfail⟩ | ⟨_, _, -, hdone⟩
      · cases hsame
        rcases update_cases hfail with ⟨_, -, hrows⟩ | ⟨row, _, -, -, -, htold⟩
        · exact hrows
        · exact absurd htold.symm (hrow _)
      · cases hdone
  | delete id =>
      rcases bind_cases hresult with ⟨_, hsame, hfail⟩ | ⟨_, _, -, hdone⟩
      · cases hsame
        rcases delete_cases hfail with ⟨_, -, hrows⟩ | ⟨-, houtcome⟩
        · exact hrows
        · split at houtcome
          · cases houtcome
          · exact absurd (Except.error.inj houtcome) (hfound id)
      · cases hdone
  | reorder places actor =>
      rcases bind_cases hresult with ⟨_, -, hfail⟩ | ⟨_, _, -, hdone⟩
      · rcases reorder_cases hfail with ⟨_, -, hrows⟩ | ⟨hdone, -⟩
        · exact hrows
        · cases hdone
      · cases hdone
  | seed actor =>
      rcases seed_cases hresult with ⟨-, hrows⟩ | ⟨_, _, _, hdone, -⟩
      · exact hrows
      · cases hdone

namespace Access

theorem keepsRows_run_of_reading {access : Access}
    (hreads : ∀ operation, access ≠ .change operation) : KeepsRows access.run := by
  cases access with
  | fetchAll => exact keepsRows_fetchAll
  | get id =>
      exact isFrame_rows.bind (keepsRows_get id) fun _ => isFrame_rows.ofOutcome (.ok _)
  | count =>
      exact isFrame_rows.bind (isFrame_rows.session (isFrame_rows.query _) _)
        fun _ => isFrame_rows.ofOutcome (.ok [])
  | change operation => exact absurd rfl (hreads operation)

/-- What a fault brings about changes no row. -/
theorem rows_of_reported {access : Access} {store left : Store} {message : String}
    {fault : Fault} (hresult : access.run store = (.error (reported message fault), left)) :
    left.rows = store.rows := by
  by_cases hreads : ∀ operation, access ≠ .change operation
  · have hrows := keepsRows_run_of_reading hreads store
    rw [hresult] at hrows
    exact hrows
  · push Not at hreads
    obtain ⟨operation, rfl⟩ := hreads
    apply Operation.rows_of_error _ _ hresult
    · unfold reported
      split <;> exact id
    · intro id
      unfold reported
      split <;> nofun

/-- The access executes more than `n` statements, if none of them fails: of `n + 1` calls
that are sure to go well, it leaves none. -/
def Executes (access : Access) (store : Store) (n : Nat) : Prop :=
  (access.run (store.under ⟨.runtime, n + 1, 0⟩)).2.outage.after = 0

instance (access : Access) (store : Store) (n : Nat) : Decidable (access.Executes store n) :=
  inferInstanceAs (Decidable (_ = _))

/-- A fault of any statement that is executed ends the access and changes no row. A fault of
the database itself is reported as a failure of the store; any other is not put into other
words, those of the operating system among them. -/
theorem run_of_outage {access : Access} {store : Store} {n : Nat}
    (hexecutes : access.Executes store n) (fault : Fault) (times : Nat) :
    ∃ left, access.run (store.under ⟨fault, n, times + 1⟩) =
        (.error (if fault.isDatabase then failure access.message fault else .fault fault), left) ∧
      left.rows = store.rows := by
  obtain ⟨calls, outcome, last, hmakes⟩ := access.planned_run store
  have hless : n < calls := by
    by_contra hspared
    obtain ⟨after, rfl⟩ := Nat.exists_eq_add_of_le (Nat.not_lt.mp hspared)
    unfold Executes at hexecutes
    rw [Nat.add_assoc, hmakes.well] at hexecutes
    exact absurd hexecutes (Nat.succ_ne_zero after)
  have hill := hmakes.ill fault n times hless
  cases hresult : access.run (store.under ⟨fault, n, times + 1⟩) with
  | mk ended left =>
      rw [hresult] at hill
      cases hill
      have hrows := rows_of_reported hresult
      exact ⟨left, rfl, hrows⟩

/-- A table of two rules without conditions. -/
def twoRules : Store :=
  .ofRows [⟨"a", "expert", .array [], 1, true, none, none, 0, 0⟩,
    ⟨"b", "expert", .array [], 2, true, none, none, 0, 0⟩] true

/-- The two rules change places. -/
def exchange : Access :=
  .change (.reorder [("a", 2), ("b", 1)] (some "admin"))

/-- The first rule has got its place when the second cannot get one, and gives it back. -/
theorem run_of_outage_exchange :
    exchange.Executes twoRules 1 ∧
      ∃ left, exchange.run (twoRules.under ⟨.interface, 1, 1⟩) =
        (.error (failure "Failed to reorder rules" .interface), left) ∧
          left.rows = twoRules.rows := by
  have hexecutes : exchange.Executes twoRules 1 := by decide +kernel
  obtain ⟨left, hresult, hrows⟩ := run_of_outage hexecutes .interface 0
  exact ⟨hexecutes, left, hresult, hrows⟩

/-- Not every fault that is expected when the store connects is reported later on: where the
operating system fails, its fault goes through as it is. -/
theorem not_reported_os :
    isConnectionFault .os = true ∧ Access.count.Executes twoRules 0 ∧
      ∀ message details, (Access.count.run (twoRules.under ⟨.os, 0, 1⟩)).1 ≠
        .error (.service (.persistence message details)) := by
  refine ⟨rfl, by decide +kernel, fun message details hreported => ?_⟩
  cases hreported

end Access

end Store

end SkillTiers
