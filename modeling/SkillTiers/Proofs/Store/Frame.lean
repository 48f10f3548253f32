/-
# What actions of the store do to the rows

A relation between a store and what becomes of it holds of an action as soon as it holds
of the parts that the action is put together from, if it is transitive and does not look at
the plan of outages (`IsFrame`). So reading the store keeps the rows: it moves at most the
plan of outages, and connecting sets its mark. An action that ends well is taken apart by the
laws named `_ok`: the parts it is put together from ended well too.
-/

import SkillTiers.Store.Reading
import SkillTiers.Store.Writing

namespace SkillTiers

namespace Store

variable {α β : Type}

/-- A relation between a store and what becomes of it that does not look at the plan of
outages. -/
structure IsFrame (related : Store → Store → Prop) : Prop where
  refl : ∀ store, related store store
  trans : ∀ first second third, related first second → related second third →
    related first third
  plan : ∀ store outage, related store { store with outage }

/-- The action leaves a store to which the relation holds, whatever its outcome. -/
def Respects (related : Store → Store → Prop) (action : Action α) : Prop :=
  ∀ store, related store (action store).2

section Respects

variable {related : Store → Store → Prop} (hframe : IsFrame related)

include hframe

theorem IsFrame.ofOutcome (outcome : Outcome α) : Respects related (Action.ofOutcome outcome) :=
  fun store => hframe.refl store

theorem IsFrame.bind {action : Action α} {rest : α → Action β}
    (haction : Respects related action) (hrest : ∀ value, Respects related (rest value)) :
    Respects related (action >>= rest) := by
  intro store
  show related store (Action.bind action rest store).2
  unfold Action.bind
  have hfirst := haction store
  cases hresult : action store with
  | mk outcome left =>
      rw [hresult] at hfirst
      cases outcome with
      | ok value => exact hframe.trans _ _ _ hfirst (hrest value left)
      | error failure => exact hfirst

omit hframe in
theorem Respects.reporting {action : Action α} (haction : Respects related action)
    (isExpected : Fault → Bool) (failure : Fault → Failure) :
    Respects related (action.reporting isExpected failure) := by
  intro store
  have hfirst := haction store
  unfold Action.reporting
  split
  · rename_i hresult
    rw [hresult] at hfirst
    exact hfirst
  · exact hfirst

omit hframe in
theorem Respects.sparing {action : Action α} (haction : Respects related action)
    (isExpected : Fault → Bool) (value : α) :
    Respects related (action.sparing isExpected value) := by
  intro store
  have hfirst := haction store
  unfold Action.sparing
  split
  · rename_i hresult
    rw [hresult] at hfirst
    exact hfirst
  · exact hfirst

theorem IsFrame.session {action : Action α} (haction : Respects related action)
    (message : String) : Respects related (session message action) := by
  intro store
  unfold Store.session
  split
  · exact haction.reporting _ _ store
  · exact hframe.refl store

theorem IsFrame.call {action : Action α} (haction : Respects related action) :
    Respects related (call action) := by
  intro store
  unfold Store.call
  cases store.outage.next with
  | mk fault outage =>
      have hplan := hframe.plan store outage
      cases fault with
      | none => exact hframe.trans _ _ _ hplan (haction { store with outage })
      | some fault => exact hplan

theorem IsFrame.query (read : List Row → α) : Respects related (query read) :=
  hframe.call fun store => hframe.refl store

end Respects

/-- The action leaves the rows as they were, whatever its outcome. -/
def KeepsRows (action : Action α) : Prop :=
  ∀ store, (action store).2.rows = store.rows

theorem isFrame_rows : IsFrame fun store left => left.rows = store.rows where
  refl _ := rfl
  trans _ _ _ hfirst hsecond := hsecond.trans hfirst
  plan _ _ := rfl

theorem keepsRows_query (read : List Row → α) : KeepsRows (query read) :=
  isFrame_rows.query read

theorem keepsRows_fetchAll : KeepsRows fetchAll := by
  refine isFrame_rows.session ?_ _
  exact isFrame_rows.bind (isFrame_rows.query Row.active) fun _ => isFrame_rows.ofOutcome _

theorem keepsRows_get (id : String) : KeepsRows (get id) := by
  refine isFrame_rows.session (isFrame_rows.bind (isFrame_rows.query _) fun row? => ?_) _
  cases row? with
  | none => exact isFrame_rows.ofOutcome (.ok none)
  | some row =>
      exact isFrame_rows.bind (isFrame_rows.ofOutcome row.toRule)
        fun stored => isFrame_rows.ofOutcome (.ok (some stored))

theorem keepsRows_start : KeepsRows start := by
  have hconnect : KeepsRows (call fun store => (.ok (), { store with isConnected := true })) :=
    isFrame_rows.call fun _ => rfl
  have hcalls := isFrame_rows.bind hconnect fun _ =>
    isFrame_rows.bind (keepsRows_query fun _ => ()) fun _ => keepsRows_query fun _ => ()
  exact hcalls.reporting _ _

/-- Whatever stands for its faults, and whatever its answer is taken for, a query keeps the
rows. -/
theorem keepsRows_sparing (isExpected : Fault → Bool) (value : β) (read : List Row → α)
    (taken : α → β) : KeepsRows ((taken <$> query read).sparing isExpected value) := by
  have htaken := isFrame_rows.bind (keepsRows_query read) fun answer =>
    isFrame_rows.ofOutcome (.ok (taken answer))
  exact htaken.sparing isExpected value

theorem keepsRows_stats : KeepsRows stats := by
  intro store
  unfold stats
  split
  · exact keepsRows_sparing _ _ _ _ store
  · rfl

theorem keepsRows_isHealthy : KeepsRows isHealthy := by
  intro store
  unfold isHealthy
  split
  · exact keepsRows_sparing _ _ _ _ store
  · rfl

/-! ### Actions that end well -/

variable {store left : Store} {value : α}

theorem bind_ok {action : Action α} {rest : α → Action β} {result : β}
    (hresult : (action >>= rest) store = (.ok result, left)) :
    ∃ value mid, action store = (.ok value, mid) ∧ rest value mid = (.ok result, left) := by
  change Action.bind action rest store = _ at hresult
  unfold Action.bind at hresult
  cases hfirst : action store with
  | mk outcome mid =>
      rw [hfirst] at hresult
      cases outcome with
      | ok value => exact ⟨value, mid, rfl, hresult⟩
      | error failure => cases hresult

theorem reporting_ok {action : Action α} {isExpected : Fault → Bool} {failure : Fault → Failure}
    (hresult : action.reporting isExpected failure store = (.ok value, left)) :
    action store = (.ok value, left) := by
  unfold Action.reporting at hresult
  cases hfirst : action store with
  | mk outcome mid =>
      rw [hfirst] at hresult
      cases outcome with
      | ok value => exact hresult
      | error cause =>
          cases cause with
          | fault fault =>
              have h := (Prod.mk.inj hresult).1
              split at h
              · cases h
              · cases h
          | _ => cases hresult

theorem session_ok {action : Action α} {message : String}
    (hresult : session message action store = (.ok value, left)) :
    action store = (.ok value, left) := by
  unfold session at hresult
  split at hresult
  · exact reporting_ok hresult
  · cases hresult

theorem call_ok {action : Action α} (hresult : call action store = (.ok value, left)) :
    ∃ outage, action { store with outage } = (.ok value, left) := by
  unfold call at hresult
  cases hnext : store.outage.next with
  | mk fault outage =>
      rw [hnext] at hresult
      cases fault with
      | none => exact ⟨outage, hresult⟩
      | some fault => cases hresult

theorem query_ok {read : List Row → α} (hresult : query read store = (.ok value, left)) :
    value = read store.rows ∧ left.rows = store.rows := by
  obtain ⟨outage, hread⟩ := call_ok hresult
  cases hread
  exact ⟨rfl, rfl⟩

theorem transaction_ok {action : Action α}
    (hresult : transaction action store = (.ok value, left)) :
    action store = (.ok value, left) := by
  unfold transaction at hresult
  cases hfirst : action store with
  | mk outcome mid =>
      rw [hfirst] at hresult
      cases outcome with
      | ok value => exact hresult
      | error failure => cases hresult

/-- The rules that are fetched are those of the active rows. -/
theorem fetchAll_ok {rules : List StoredRule} (hresult : fetchAll store = (.ok rules, left)) :
    (Row.active store.rows).mapM Row.toRule = .ok rules := by
  obtain ⟨rows, mid, hquery, hrules⟩ := bind_ok (session_ok hresult)
  rw [(query_ok hquery).1] at hrules
  exact (Prod.mk.inj hrules).1

/-- Inserting rules reports each of them. -/
theorem insertAll_ok {actor : Option String} {rules : List Rule} {stored : List StoredRule}
    (hresult : insertAll actor rules store = (.ok stored, left)) :
    stored.length = rules.length := by
  induction rules generalizing store stored with
  | nil =>
      cases hresult
      rfl
  | cons rule rest ih =>
      rw [insertAll] at hresult
      obtain ⟨first, mid, -, hrest⟩ := bind_ok hresult
      obtain ⟨others, last, hothers, hall⟩ := bind_ok hrest
      cases hall
      rw [List.length_cons, List.length_cons, ih hothers]

/-! ### The rules of the table -/

/-- The rules that a fetch gives when no call fails. -/
def tabled (store : Store) : Outcome (List Rule) := do
  return (← (fetchAll { store with isConnected := true, outage := .never }).1).map (·.rule)

/-- The rules of the table are those of its active rows. -/
theorem tabled_eq {rules : List StoredRule}
    (hrules : (Row.active store.rows).mapM Row.toRule = .ok rules) :
    store.tabled = .ok (rules.map (·.rule)) := by
  unfold tabled fetchAll session Action.reporting
  simp only [bind, Action.bind, query, call, Outage.next, Outage.never, Action.ofOutcome, hrules]
  rfl

/-- The rules of the table come from its active rows. -/
theorem tabled_ok {rules : List Rule} (htabled : store.tabled = .ok rules) :
    ∃ stored, (Row.active store.rows).mapM Row.toRule = .ok stored ∧
      rules = stored.map (·.rule) := by
  cases hstored : (Row.active store.rows).mapM Row.toRule with
  | ok stored =>
      rw [tabled_eq hstored] at htabled
      exact ⟨stored, rfl, (Except.ok.inj htabled).symm⟩
  | error failure =>
      unfold tabled fetchAll session Action.reporting at htabled
      simp only [bind, Action.bind, query, call, Outage.next, Outage.never, Action.ofOutcome,
        hstored] at htabled
      cases failure <;> cases htabled

/-- A fetch that ends well gives the rules of the table. -/
theorem tabled_of_fetchAll {rules : List StoredRule}
    (hresult : fetchAll store = (.ok rules, left)) :
    store.tabled = .ok (rules.map (·.rule)) :=
  tabled_eq (fetchAll_ok hresult)

/-- The rules of the table depend on the rows alone. -/
theorem tabled_congr {other : Store} (hrows : other.rows = store.rows) :
    other.tabled = store.tabled := by
  unfold tabled fetchAll session Action.reporting
  simp only [bind, Action.bind, query, call, Outage.next, Outage.never, Action.ofOutcome, hrows]
  cases (Row.active store.rows).mapM Row.toRule with
  | ok rules => rfl
  | error failure => cases failure <;> rfl

end Store

end SkillTiers
