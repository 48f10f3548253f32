/-
# Saving does not change what a rule means

What the store gives back for a rule that was created, or whose conditions were
updated, is that rule with conditions that are stored as the original ones and
evaluate like them (`get_of_saved`), whatever their texts and thresholds are and
however deep they lie in one another.
-/

import SkillTiers.Proofs.Store.Changes

namespace SkillTiers

open Condition

/-- The conditions are stored as the original ones and evaluate like them. -/
structure Condition.MeansSame (found original : List Condition) : Prop where
  stored : allToStored found = allToStored original
  evaluates : ∀ metrics, evaluateLevel metrics found = evaluateLevel metrics original

theorem Condition.meansSame_allPared (conditions : List Condition) :
    MeansSame (allPared conditions) conditions where
  stored := allToStored_allPared conditions
  evaluates metrics := by
    have halike : List.Forall₂ StoredAlike (allPared conditions) conditions := by
      rw [allPared_eq_map, List.forall₂_map_left_iff, List.forall₂_same]
      exact fun condition _ => storedAlike_pared condition
    unfold evaluateLevel
    rw [Expression.compile_alike halike]

namespace Store

variable {store left later : Store} {actor : Option String} {conditions : List Condition}

/-- A store that is connected and whose next call goes well gives back the rule in the
first row with an id. -/
theorem get_row {id : String} {row : Row} {stored : StoredRule}
    (hconnected : later.isConnected = true) (hcalm : later.outage.next.1 = none)
    (hrow : Row.find? later.rows id = some row) (hrule : row.toRule = .ok stored) :
    (get id later).1 = .ok (some stored) := by
  obtain ⟨fault?, outage, hnext⟩ : ∃ fault? outage, later.outage.next = (fault?, outage) :=
    ⟨_, _, rfl⟩
  rw [hnext] at hcalm
  cases hcalm
  unfold get session
  rw [if_pos hconnected]
  unfold Action.reporting
  simp only [bind, Action.bind, query, call, hnext, hrow, Functor.map, Action.ofOutcome, hrule]
  rfl

/-- A row with the text of conditions says them. -/
private theorem meansSame_of_text {row : Row} {stored : StoredRule}
    (htext : row.conditions = .string (Json.array (allToStored conditions)).text)
    (hkeys : ∀ threshold ∈ allThresholds conditions, threshold.KeysOnce)
    (hrule : row.toRule = .ok stored) :
    stored.rule.id = row.id ∧ stored.rule.level = row.level ∧
      stored.rule.displayOrder = row.displayOrder ∧ stored.rule.isActive = row.isActive ∧
      MeansSame stored.rule.conditions conditions := by
  obtain ⟨tier, found, htier, hfound, rfl⟩ := Row.toRule_ok_iff.mp hrule
  rw [Row.readConditions_text htext hkeys hfound]
  exact ⟨rfl, (Tier.ofLevel_ok htier).symm, rfl, rfl, meansSame_allPared conditions⟩

/-- After a rule has been created, and after the conditions of a rule have been updated,
the store gives back under its id the level, the place and the mark that it is active,
and conditions that mean the same. The thresholds may be any values in which no object
has a key twice. -/
theorem get_of_saved (hkeys : ∀ threshold ∈ allThresholds conditions, threshold.KeysOnce)
    (hrows : later.rows = left.rows) (hconnected : later.isConnected = left.isConnected)
    (hcalm : later.outage.next.1 = none) :
    (∀ {rule : Rule} {created : StoredRule}, rule.conditions = conditions →
      create rule actor store = (.ok created, left) →
        (rule.id.isEmpty = false → created.rule.id = rule.id) ∧
        ∃ found, (get created.rule.id later).1 = .ok (some found) ∧
          found.rule.level = rule.level ∧ found.rule.displayOrder = rule.displayOrder ∧
          found.rule.isActive = rule.isActive ∧ MeansSame found.rule.conditions conditions) ∧
    (∀ {id : String} {update : RuleUpdate} {updated : StoredRule},
      update.conditions = some (allToStored conditions) →
      Store.update id update actor store = (.ok updated, left) →
        ∃ row found, Row.find? store.rows id = some row ∧
          (get id later).1 = .ok (some found) ∧
          found.rule.level = update.level.getD row.level ∧
          found.rule.displayOrder = update.displayOrder.getD row.displayOrder ∧
          found.rule.isActive = update.isActive.getD row.isActive ∧
          MeansSame found.rule.conditions conditions) := by
  constructor
  · rintro rule created rfl hcreate
    rcases create_cases hcreate with ⟨_, hfail, -⟩ | ⟨row, hinserts, hnew, hwritten, hkept, hrule⟩
    · cases hfail
    cases hinserts with
    | @mk id tier instant htier hid =>
        obtain ⟨hsame, hlevel, hplace, hactive, hmeans⟩ :=
          meansSame_of_text rfl hkeys hrule.symm
        refine ⟨fun hnamed => hsame.trans (hid hnamed), created, ?_, ?_, hplace, hactive, hmeans⟩
        · apply get_row (hconnected.trans hkept) hcalm _ hrule.symm
          rw [List.any_eq_false] at hnew
          rw [hrows, hwritten, hsame, Row.find?, List.find?_append,
            List.find?_eq_none.mpr hnew]
          simp
        · exact hlevel.trans (Tier.ofLevel_ok htier).symm
  · intro id update updated hconditions hupdate
    rcases update_cases hupdate with ⟨_, hfail, -⟩ | ⟨row, instant, hrow, hwritten, hkept, hrule⟩
    · cases hfail
    have htext : ((row.updated update).stamped actor instant).conditions =
        .string (Json.array (allToStored conditions)).text := by
      unfold Row.stamped Row.updated
      rw [hconditions]
      rfl
    obtain ⟨-, hlevel, hplace, hactive, hmeans⟩ := meansSame_of_text htext hkeys hrule.symm
    refine ⟨row, updated, hrow, ?_, hlevel, hplace, hactive, hmeans⟩
    apply get_row (hconnected.trans hkept) hcalm _ hrule.symm
    rw [hrows, hwritten, Row.find?_modify store.rows
      (fun row => (row.updated update).stamped actor instant) fun _ => rfl, hrow]
    rfl

/-- A condition with a text outside ASCII, an empty link, an undefined threshold and a
sub-condition whose threshold is an object. -/
def oddCondition : Condition where
  metric := some "é"
  operator := none
  value := .number (.float .nan)
  metric2 := none
  combineWith := some ""
  subConditions := [⟨none, none, .object [("", .array [])], none, none, [], none⟩]
  note := none

/-- A rule with it. -/
def oddRule : Rule :=
  ⟨"odd", "expert", [oddCondition], -3, false⟩

/-- The update that gives these conditions and a level to a rule. -/
def oddUpdate : RuleUpdate :=
  ⟨some "beginner", some (allToStored [oddCondition]), none, none⟩

/-- A store that has a rule without conditions. -/
def bareStore : Store :=
  .ofRows [.ofRule "odd" .expert { oddRule with conditions := [] } none 0] true

/-- The rule is given back after it has been created, and after the update. -/
theorem get_of_saved_odd :
    (∃ created left found, create oddRule none (.ofRows [] true) = (.ok created, left) ∧
      (get created.rule.id { left with outage := .never }).1 = .ok (some found) ∧
      created.rule.id = "odd" ∧ found.rule.level = "expert" ∧
      MeansSame found.rule.conditions [oddCondition]) ∧
    ∃ updated left found, Store.update "odd" oddUpdate none bareStore = (.ok updated, left) ∧
      (get "odd" { left with outage := .never }).1 = .ok (some found) ∧
      found.rule.level = "beginner" ∧ found.rule.displayOrder = -3 ∧
      MeansSame found.rule.conditions [oddCondition] := by
  have hkeys : ∀ threshold ∈ allThresholds [oddCondition], threshold.KeysOnce := by
    simp [oddCondition, allThresholds, thresholds, Json.KeysOnce, Json.FieldsKeysOnce,
      Json.AllKeysOnce, Json.keys]
  constructor
  · cases hcreate : create oddRule none (.ofRows [] true) with
    | mk outcome left =>
        have hcreated : (create oddRule none (.ofRows [] true)).1.toOption.isSome = true := by
          decide +kernel
        rw [hcreate] at hcreated
        obtain ⟨created, hsome⟩ := Option.isSome_iff_exists.mp hcreated
        cases ok_of_toOption hsome
        obtain ⟨hid, found, hget, hlevel, -, -, hmeans⟩ :=
          (@get_of_saved _ left { left with outage := .never } none _ hkeys rfl rfl rfl).1
            rfl hcreate
        exact ⟨created, left, found, rfl, hget, hid rfl, hlevel, hmeans⟩
  · cases hupdate : Store.update "odd" oddUpdate none bareStore with
    | mk outcome left =>
        have hupdated : (Store.update "odd" oddUpdate none bareStore).1.toOption.isSome = true := by
          decide +kernel
        rw [hupdate] at hupdated
        obtain ⟨updated, hsome⟩ := Option.isSome_iff_exists.mp hupdated
        cases ok_of_toOption hsome
        obtain ⟨row, found, hrow, hget, hlevel, hplace, -, hmeans⟩ :=
          (@get_of_saved _ left { left with outage := .never } none _ hkeys rfl rfl rfl).2
            rfl hupdate
        cases hrow
        exact ⟨updated, left, found, rfl, hget, hlevel, hplace, hmeans⟩

end Store

end SkillTiers
