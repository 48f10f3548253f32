/-
# What an update changes

The statement that is put together for an update sets the fields that a value is told for,
to that value, and no others, whichever of them are told (`Statement.Sets`). So it does what
an update does (`Store.amend_eq_update`). It is executed as a whole or not at all: row by
row, either the row with the id has the told values and the marks of the change, or nothing
has changed (`Store.amend_frame`).
-/

import SkillTiers.Proofs.Outcome
import SkillTiers.Proofs.Store.Clock
import SkillTiers.Store.Statement

namespace SkillTiers

/-! ### The statement that is put together -/

namespace Statement

variable {statement : Statement} {id : String} {actor : Option String} {change : Row → Row}

theorem parameter?_append {parameters : List Value} {number : Nat} {value : Value}
    (hvalue : parameter? parameters number = some value) (more : List Value) :
    parameter? (parameters ++ more) number = some value := by
  cases number with
  | zero => cases hvalue
  | succ index =>
      obtain ⟨hindex, -⟩ := List.getElem?_eq_some_iff.mp hvalue
      exact (List.getElem?_append_left hindex).trans hvalue

/-- The parameters begin with the id and the actor, and the assignments make this change of a
row, whatever parameters are added. -/
structure Sets (statement : Statement) (id : String) (actor : Option String)
    (change : Row → Row) : Prop where
  id : parameter? statement.parameters 1 = some (.text id)
  actor : parameter? statement.parameters 2 = some (.ofText? actor)
  assigns : ∀ more now row,
    assign (statement.parameters ++ more) now statement.assignments row = some (change row)

theorem sets_start (id : String) (actor : Option String) :
    (start id actor).Sets id actor fun row => row :=
  ⟨rfl, rfl, fun _ _ _ => rfl⟩

/-- Assignments are made one after the other. -/
theorem assign_append {parameters : List Value} {now : Instant}
    {first second : List Assignment} {row changed : Row}
    (hfirst : assign parameters now first row = some changed) :
    assign parameters now (first ++ second) row = assign parameters now second changed := by
  unfold assign at hfirst ⊢
  rw [List.foldlM_append, hfirst]
  rfl

/-- A parameter as it arrives at a field: conditions are taken from a text. -/
def Value.arriving : Value → RuleField → Value
  | .text content, .conditions => .json content
  | _, .conditions => .null
  | value, _ => value

/-- The assignment of a field puts in its parameter. -/
theorem assign_field {parameters : List Value} {number : Nat} {value : Value}
    (hvalue : parameter? parameters number = some value) (field : RuleField) (now : Instant)
    (row : Row) : assign parameters now [⟨.field field, .ofField field number⟩] row =
      (Column.field field).put (value.arriving field) row := by
  simp only [assign, List.foldlM_cons, List.foldlM_nil, bind_pure]
  cases field with
  | conditions =>
      simp only [Source.ofField, Source.value?, hvalue]
      cases value <;> rfl
  | level | displayOrder | isActive =>
      simp only [Source.ofField, Source.value?, hvalue]
      cases value <;> rfl

/-- One more field is set to its parameter, and the parameters before it keep their numbers. -/
theorem Sets.set (hsets : statement.Sets id actor change) {field : RuleField} {value : Value}
    {put : Row → Row}
    (hput : ∀ row, (Column.field field).put (value.arriving field) row = some (put row)) :
    (statement.set field value).Sets id actor fun row => put (change row) := by
  refine ⟨parameter?_append hsets.id _, parameter?_append hsets.actor _, fun more now row => ?_⟩
  have hvalue : parameter? (statement.parameters ++ [value]) (statement.parameters.length + 1) =
      some value := List.getElem?_concat_length
  have hchange := hsets.assigns ([value] ++ more) now row
  rw [← List.append_assoc] at hchange
  unfold Statement.set
  rw [assign_append hchange, assign_field (parameter?_append hvalue more), hput]

/-- The marks are set from the second parameter and the clock. -/
theorem assign_marks {parameters : List Value}
    (hactor : parameter? parameters 2 = some (.ofText? actor)) (now : Instant) (row : Row) :
    assign parameters now [⟨.updatedBy, .parameter 2⟩, ⟨.updatedAt, .now⟩] row =
      some (row.stamped actor now) := by
  simp only [assign, List.foldlM_cons, List.foldlM_nil, Source.value?, hactor]
  cases actor <;> rfl

/-- The marked statement makes its change and sets the marks, in the row with the id. -/
theorem Sets.run_mark (hsets : statement.Sets id actor change) (now : Instant)
    (rows : List Row) :
    statement.mark.run now rows =
      .ok ((Row.find? rows id).map fun row => (change row).stamped actor now,
        Row.modify rows id fun row => (change row).stamped actor now) := by
  have hassign (row : Row) : assign statement.mark.parameters now statement.mark.assignments row =
      some ((change row).stamped actor now) := by
    have hchange := hsets.assigns [] now row
    rw [List.append_nil] at hchange
    exact (assign_append hchange).trans (assign_marks hsets.actor now _)
  have hid : parameter? statement.mark.parameters 1 = some (.text id) := hsets.id
  unfold run
  rw [hid]
  dsimp only
  cases hrow : Row.find? rows id with
  | none => rw [Row.modify_of_find?_none hrow, Option.map_none]
  | some row =>
      dsimp only
      rw [hassign, Option.map_some]
      dsimp only
      rw [Row.modify_found hrow fun row => (change row).stamped actor now]

end Statement

namespace Updates

variable {updates : Updates} {statement : Statement} {id : String} {actor : Option String}
  {change : Row → Row}

/-- The row with what is told for a field, if a value is. -/
def put (updates : Updates) (row : Row) : RuleField → Row
  | .level => { row with level := updates.level.join.getD row.level }
  | .conditions =>
    { row with conditions := (updates.conditions.join.map fun conditions =>
        .string (Json.array (Condition.allToStored conditions)).text).getD row.conditions }
  | .displayOrder => { row with displayOrder := updates.displayOrder.join.getD row.displayOrder }
  | .isActive => { row with isActive := updates.isActive.join.getD row.isActive }

/-- Putting in what is told for each field is the update. -/
theorem updated_eq_put (updates : Updates) (row : Row) :
    row.updated updates.toUpdate = RuleField.all.foldl updates.put row := by
  obtain ⟨level, conditions, displayOrder, isActive⟩ := updates
  rcases conditions with _ | _ | conditions <;> rfl

/-- For a field no value is told, or one that is put in when it arrives, or one that cannot be
sent. -/
theorem value?_cases (updates : Updates) (field : RuleField) :
    (updates.value? field = .ok none ∧ ∀ row, updates.put row field = row) ∨
      (∃ value, updates.value? field = .ok (some value) ∧ ∀ row,
        (Statement.Column.field field).put (value.arriving field) row =
          some (updates.put row field)) ∨
      ∃ failure, updates.value? field = .error failure := by
  unfold value? put
  cases field with
  | level =>
      cases updates.level.join with
      | none => exact .inl ⟨rfl, fun _ => rfl⟩
      | some level =>
          dsimp only
          cases htier : Tier.ofLevel level with
          | error failure => exact .inr (.inr ⟨failure, rfl⟩)
          | ok tier =>
              cases Tier.ofLevel_ok htier
              exact .inr (.inl ⟨_, rfl, fun _ => rfl⟩)
  | conditions =>
      cases updates.conditions.join with
      | none => exact .inl ⟨rfl, fun _ => rfl⟩
      | some conditions =>
          dsimp only
          cases (Json.array (Condition.allToStored conditions)).checkText with
          | error failure => exact .inr (.inr ⟨failure, rfl⟩)
          | ok _ => exact .inr (.inl ⟨_, rfl, fun _ => rfl⟩)
  | displayOrder =>
      cases updates.displayOrder.join with
      | none => exact .inl ⟨rfl, fun _ => rfl⟩
      | some displayOrder => exact .inr (.inl ⟨_, rfl, fun _ => rfl⟩)
  | isActive =>
      cases updates.isActive.join with
      | none => exact .inl ⟨rfl, fun _ => rfl⟩
      | some isActive => exact .inr (.inl ⟨_, rfl, fun _ => rfl⟩)

/-- Whether the value that a field is told can be sent. -/
def checkField (updates : Updates) (field : RuleField) : Outcome Unit := do
  let _ ← updates.value? field
  return ()

/-- What is told for fields is set, or some of it cannot be sent. -/
theorem tellAll_cases (hsets : statement.Sets id actor change) (fields : List RuleField) :
    (∃ told, fields.foldlM updates.tell statement = .ok told ∧
        forM fields updates.checkField = .ok () ∧
        told.Sets id actor fun row => fields.foldl updates.put (change row)) ∨
      ∃ failure, fields.foldlM updates.tell statement = .error failure ∧
        forM fields updates.checkField = .error failure := by
  induction fields generalizing statement change with
  | nil => exact .inl ⟨statement, rfl, rfl, hsets⟩
  | cons field rest ih =>
      rw [List.foldlM_cons, List.forM_cons, tell, checkField]
      rcases updates.value?_cases field with
        ⟨hvalue, hput⟩ | ⟨value, hvalue, hput⟩ | ⟨failure, hvalue⟩
      · have hkept : (fun row => (field :: rest).foldl updates.put (change row)) =
            fun row => rest.foldl updates.put (change row) := by
          funext row
          rw [List.foldl_cons, hput]
        rw [hvalue, hkept]
        exact ih hsets
      · rw [hvalue]
        exact ih (hsets.set hput)
      · rw [hvalue]
        exact .inr ⟨failure, rfl, rfl⟩

/-- What is told can be sent as far as the update passes its check. -/
theorem forM_checkField (updates : Updates) :
    forM RuleField.all updates.checkField = updates.toUpdate.check := by
  have hlevel : updates.checkField .level = updates.toUpdate.checkLevel := by
    unfold checkField value? RuleUpdate.checkLevel toUpdate
    cases updates.level.join with
    | none => rfl
    | some level =>
        dsimp only
        cases Tier.ofLevel level <;> rfl
  have hconditions : updates.checkField .conditions =
      updates.toUpdate.conditions.elim (.ok ()) fun stored => (Json.array stored).checkText := by
    unfold checkField value? toUpdate
    cases updates.conditions.join with
    | none => rfl
    | some conditions =>
        dsimp only [Option.map_some, Option.elim_some]
        cases (Json.array (Condition.allToStored conditions)).checkText <;> rfl
  unfold RuleField.all RuleUpdate.check
  rw [List.forM_cons, List.forM_cons, hlevel, hconditions]
  cases updates.toUpdate.checkLevel with
  | error failure => rfl
  | ok _ =>
      generalize updates.toUpdate.conditions.elim _ _ = checked
      cases checked <;> rfl

/-- The statement of an update does what the update does, and where there is none the update
fails its check. -/
theorem statement_cases (updates : Updates) (id : String) (actor : Option String) :
    (∃ statement, updates.statement id actor = .ok statement ∧ updates.toUpdate.check = .ok () ∧
        ∀ now rows, statement.run now rows =
          .ok (Store.updateRows id updates.toUpdate actor now rows)) ∨
      ∃ failure, updates.statement id actor = .error failure ∧
        updates.toUpdate.check = .error failure := by
  unfold Updates.statement
  rw [← forM_checkField]
  rcases tellAll_cases (Statement.sets_start id actor) RuleField.all with
    ⟨told, htold, hcheck, hsets⟩ | ⟨failure, htold, hcheck⟩
  · rw [htold]
    refine .inl ⟨told.mark, rfl, hcheck, fun now rows => ?_⟩
    rw [hsets.run_mark]
    unfold Store.updateRows
    dsimp only
    rw [Row.find?_modify rows (fun row => (row.updated updates.toUpdate).stamped actor now)
      fun _ => rfl]
    simp only [updated_eq_put]
  · rw [htold]
    exact .inr ⟨failure, rfl, hcheck⟩

/-- Parameters are numbered by what is told, so the mark that a rule is active is the fourth one
where the level and the place are left out. -/
example : (Updates.mk none (some (some [])) (some none) (some (some false))).statement "r" none =
    .ok ⟨[.text "r", .null, .text "[]", .truth false],
      [⟨.field .conditions, .json 3⟩, ⟨.field .isActive, .parameter 4⟩,
        ⟨.updatedBy, .parameter 2⟩, ⟨.updatedAt, .now⟩]⟩ := rfl

end Updates

namespace Store

/-- Updating by the statement of what is told is updating. -/
theorem amend_eq_update (id : String) (updates : Updates) (actor : Option String) :
    amend id updates actor = Store.update id updates.toUpdate actor := by
  unfold amend Store.update
  rcases updates.statement_cases id actor with
    ⟨statement, hstatement, hcheck, hrun⟩ | ⟨failure, hstatement, hcheck⟩
  · have hwrite : statement.run =
        fun now rows => .ok (updateRows id updates.toUpdate actor now rows) := by
      funext now rows
      exact hrun now rows
    rw [hstatement, hcheck, ← hwrite]
    rfl
  · rw [hstatement, hcheck]
    rfl

/-! ### One statement, or none -/

variable {store left : Store} {id : String} {actor : Option String}

/-- The store is connected, and its next call goes well. -/
structure AnswersNext (store : Store) : Prop where
  connected : store.isConnected = true
  spared : store.outage.next.1 = none

/-- An update that passes its check and whose statement goes well writes it, whether there is
a row with the id or not. -/
theorem update_of_answers {update : RuleUpdate} (hcheck : update.check = .ok ())
    (hanswers : store.AnswersNext) (id : String) (actor : Option String) :
    ∃ left, Store.update id update actor store =
        ((Row.find? store.rows id).elim (.error (notFound id)) fun row =>
          ((row.updated update).stamped actor (store.clock + 1)).toRule, left) ∧
      left.rows = Row.modify store.rows id fun row =>
        (row.updated update).stamped actor (store.clock + 1) := by
  obtain ⟨hconnected, hspared⟩ := hanswers
  obtain ⟨fault?, outage, hnext⟩ : ∃ fault? outage, store.outage.next = (fault?, outage) :=
    ⟨_, _, rfl⟩
  rw [hnext] at hspared
  cases hspared
  have hfound : Row.find? (Row.modify store.rows id fun row =>
      (row.updated update).stamped actor (store.clock + 1)) id = _ :=
    Row.find?_modify store.rows _ fun _ => rfl
  unfold Store.update session execute call
  simp only [bind, Action.bind, Action.ofOutcome, Action.reporting, hcheck, hconnected, if_true,
    hnext, updateRows, hfound]
  cases Row.find? store.rows id with
  | none => exact ⟨_, rfl, rfl⟩
  | some row => exact ⟨_, rfl, rfl⟩

/-- An update that does not pass its check, or whose statement does not go well, fails and
writes nothing. -/
theorem update_of_not_answers {update : RuleUpdate}
    (hrefused : ¬ (update.check = .ok () ∧ store.AnswersNext)) (id : String)
    (actor : Option String) :
    ∃ failure left, Store.update id update actor store = (.error failure, left) ∧
      left.rows = store.rows := by
  unfold Store.update session execute call
  cases hcheck : update.check with
  | error failure => exact ⟨failure, store, rfl, rfl⟩
  | ok _ =>
      simp only [bind, Action.bind, Action.ofOutcome, Action.reporting]
      cases hconnected : store.isConnected with
      | false => exact ⟨notStarted, store, rfl, rfl⟩
      | true =>
          cases hnext : store.outage.next with
          | mk fault? outage =>
              cases fault? with
              | none => exact absurd ⟨hcheck, hconnected, congrArg Prod.fst hnext⟩ hrefused
              | some fault => exact ⟨_, _, rfl, rfl⟩

end Store

/-! ### What is told, and what is not -/

/-- The level that is told exists, and a text can be made of the conditions that are told. -/
structure Updates.CanBeSent (updates : Updates) : Prop where
  level : ∀ level, updates.level = some (some level) → IsResult (Tier.ofLevel level)
  text : ∀ conditions, updates.conditions = some (some conditions) →
    IsResult (Json.array (Condition.allToStored conditions)).checkText

/-- The same values are told for the fields, and for the others nothing or none. -/
structure Updates.TellsSame (updates others : Updates) : Prop where
  level : updates.level.join = others.level.join
  conditions : updates.conditions.join = others.conditions.join
  displayOrder : updates.displayOrder.join = others.displayOrder.join
  isActive : updates.isActive.join = others.isActive.join

/-- The row is the other one with the values that are told and the marks of the change. What is
told counts whatever it is, the empty list, zero and false included. -/
structure Row.Amends (updates : Updates) (actor : Option String) (now : Instant)
    (row changed : Row) : Prop where
  level : changed.level = updates.level.join.getD row.level
  conditions : changed.conditions = (updates.conditions.join.map fun conditions =>
    .string (Json.array (Condition.allToStored conditions)).text).getD row.conditions
  displayOrder : changed.displayOrder = updates.displayOrder.join.getD row.displayOrder
  isActive : changed.isActive = updates.isActive.join.getD row.isActive
  updatedBy : changed.updatedBy = actor
  updatedAt : changed.updatedAt = now
  id : changed.id = row.id
  createdBy : changed.createdBy = row.createdBy
  createdAt : changed.createdAt = row.createdAt

theorem Row.amends_updated (updates : Updates) (actor : Option String) (now : Instant)
    (row : Row) :
    Amends updates actor now row ((row.updated updates.toUpdate).stamped actor now) := by
  rw [updates.updated_eq_put]
  constructor <;> rfl

theorem Updates.TellsSame.toUpdate {updates others : Updates}
    (hsame : updates.TellsSame others) : updates.toUpdate = others.toUpdate := by
  unfold Updates.toUpdate
  rw [hsame.level, hsame.conditions, hsame.displayOrder, hsame.isActive]

/-- What is told can be sent if and only if the update passes its check. -/
theorem Updates.canBeSent_iff {updates : Updates} :
    updates.CanBeSent ↔ updates.toUpdate.check = .ok () := by
  have hlevel : updates.toUpdate.checkLevel = .ok () ↔
      ∀ level, updates.level = some (some level) → IsResult (Tier.ofLevel level) := by
    unfold RuleUpdate.checkLevel toUpdate
    simp only [← Option.join_eq_some_iff]
    cases updates.level.join with
    | none => exact iff_of_true rfl nofun
    | some level =>
        simp only [Option.some.injEq, forall_eq']
        cases Tier.ofLevel level with
        | ok tier => exact iff_of_true rfl (isResult_ok tier)
        | error failure => exact iff_of_false nofun (not_isResult_error failure)
  have htext : updates.toUpdate.conditions.elim (.ok ())
        (fun stored => (Json.array stored).checkText) = .ok () ↔
      ∀ conditions, updates.conditions = some (some conditions) →
        IsResult (Json.array (Condition.allToStored conditions)).checkText := by
    unfold toUpdate
    simp only [← Option.join_eq_some_iff]
    cases updates.conditions.join with
    | none => exact iff_of_true rfl nofun
    | some conditions =>
        simp only [Option.some.injEq, forall_eq', Option.map_some, Option.elim_some]
        cases (Json.array (Condition.allToStored conditions)).checkText with
        | ok _ => exact iff_of_true rfl (isResult_ok ())
        | error failure => exact iff_of_false nofun (not_isResult_error failure)
  have hboth : updates.CanBeSent ↔ updates.toUpdate.checkLevel = .ok () ∧
      updates.toUpdate.conditions.elim (.ok ()) (fun stored => (Json.array stored).checkText) =
        .ok () := by
    rw [hlevel, htext]
    exact ⟨fun h => ⟨h.level, h.text⟩, fun h => ⟨h.1, h.2⟩⟩
  rw [hboth, RuleUpdate.check]
  cases updates.toUpdate.checkLevel with
  | error failure => exact iff_of_false nofun nofun
  | ok _ => exact and_iff_right rfl

namespace Store

variable {store left : Store} {id : String} {actor : Option String} {updates : Updates}
  {outcome : Outcome StoredRule}

/-- Where ids occur once, an update that is told values changes exactly these fields of the row
with the id, if there is one, the values can be sent and the statement goes well. The row also
gets the marks of the change, and is given back; other rows stay as they are. In every other
case the update fails, and all rows stay as they are. To be told none for a field is to be told
nothing. -/
theorem amend_frame (honce : Row.IdsOnce store.rows)
    (hresult : amend id updates actor store = (outcome, left)) :
    (updates.CanBeSent → store.AnswersNext → ∀ row ∈ store.rows, row.id = id →
      ∃ changed, row.Amends updates actor (store.clock + 1) changed ∧
        outcome = changed.toRule ∧
        List.Forall₂ (fun old new => new = if old.id = id then changed else old)
          store.rows left.rows) ∧
    (¬ (updates.CanBeSent ∧ store.AnswersNext ∧ ∃ row ∈ store.rows, row.id = id) →
      (∃ failure, outcome = .error failure) ∧ left.rows = store.rows) ∧
    ∀ others : Updates, others.TellsSame updates →
      amend id others actor store = (outcome, left) := by
  rw [amend_eq_update] at hresult
  refine ⟨fun hsent hanswers row hmem hid => ?_, fun hrefused => ?_, fun others hsame => ?_⟩
  · subst hid
    have hfound : Row.find? store.rows row.id = some row :=
      (mem_iff_find?_key Row.id honce).mp hmem
    obtain ⟨_, hwrites, hrows⟩ :=
      update_of_answers (Updates.canBeSent_iff.mp hsent) hanswers row.id actor
    rw [hfound] at hwrites
    obtain ⟨rfl, rfl⟩ := Prod.mk.inj (hresult.symm.trans hwrites)
    refine ⟨_, Row.amends_updated updates actor (store.clock + 1) row, rfl, ?_⟩
    rw [hrows, ← Row.modify_found hfound]
    exact honce.forall₂_modify row.id fun _ => _
  · by_cases hgoes : updates.toUpdate.check = .ok () ∧ store.AnswersNext
    · -- Only the row is missing.
      have hnone : Row.find? store.rows id = none := by
        refine List.find?_eq_none.mpr fun row hmem hid => hrefused ?_
        exact ⟨Updates.canBeSent_iff.mpr hgoes.1, hgoes.2, row, hmem, beq_iff_eq.mp hid⟩
      obtain ⟨_, hwrites, hrows⟩ := update_of_answers hgoes.1 hgoes.2 id actor
      rw [hnone] at hwrites
      obtain ⟨rfl, rfl⟩ := Prod.mk.inj (hresult.symm.trans hwrites)
      exact ⟨⟨_, rfl⟩, hrows.trans (Row.modify_of_find?_none hnone)⟩
    · obtain ⟨failure, _, hfails, hrows⟩ := update_of_not_answers hgoes id actor
      obtain ⟨rfl, rfl⟩ := Prod.mk.inj (hresult.symm.trans hfails)
      exact ⟨⟨failure, rfl⟩, hrows⟩
  · rw [amend_eq_update, hsame.toUpdate]
    exact hresult

/-- An update to which only values are told that could be taken for none, and none for the
level. -/
def emptying : Updates :=
  ⟨some none, some (some []), some (some 0), some (some false)⟩

/-- A row that the update is not about. -/
def steadyRow : Row :=
  ⟨"steady", "beginner", .array [], 3, true, none, none, 0, 0⟩

/-- The row that it is about. -/
def fullRow : Row :=
  ⟨"full", "expert", .array [.null], 7, true, some "ada", none, 0, 0⟩

/-- The values are written, and nothing else is. -/
theorem amend_frame_emptying :
    Row.IdsOnce [steadyRow, fullRow] ∧ emptying.CanBeSent ∧
      AnswersNext (.ofRows [steadyRow, fullRow] true) ∧
      (amend "full" emptying (some "eve") (.ofRows [steadyRow, fullRow] true)).2.rows =
        [steadyRow, { fullRow with
          conditions := .string "[]", displayOrder := 0, isActive := false,
          updatedBy := some "eve", updatedAt := 1 }] := by
  have honce : Row.IdsOnce [steadyRow, fullRow] := by
    unfold Row.IdsOnce
    decide
  have hsent : emptying.CanBeSent := by
    refine ⟨fun _ hnone => (by cases hnone), fun conditions htold => ?_⟩
    cases htold
    exact isResult_ok ()
  have hanswers : AnswersNext (.ofRows [steadyRow, fullRow] true) := ⟨rfl, rfl⟩
  refine ⟨honce, hsent, hanswers, ?_⟩
  cases hresult : amend "full" emptying (some "eve") (.ofRows [steadyRow, fullRow] true) with
  | mk outcome left =>
      obtain ⟨changed, hamends, -, hrows⟩ := (amend_frame honce hresult).1 hsent hanswers fullRow
        (List.mem_cons_of_mem _ List.mem_cons_self) rfl
      have hchanged : changed = { fullRow with
          conditions := .string "[]", displayOrder := 0, isActive := false,
          updatedBy := some "eve", updatedAt := 1 } := by
        cases changed
        obtain ⟨⟨⟩, ⟨⟩, ⟨⟩, ⟨⟩, ⟨⟩, ⟨⟩, ⟨⟩, ⟨⟩, ⟨⟩⟩ := hamends
        rfl
      change left.rows = _
      generalize left.rows = rows at hrows
      cases hrows with
      | cons hfirst hrest =>
          cases hrest with
          | cons hsecond hnone =>
              cases hnone
              rw [hfirst, hsecond, hchanged]
              rfl

end Store

end SkillTiers
