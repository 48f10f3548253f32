/-
# Stored conditions read back

A stored condition that is written as an object and read again has null for whatever counts
as nothing and stands for nothing (`StoredCondition.pared`), at every depth. That takes as
much room as conditions lie in one another, and with less there is no outcome but the
failure that says so (`StoredCondition.read_toJson`). A condition of a rule is stored with
texts and null alone, and is given back by what is stored.
-/

import SkillTiers.Proofs.Condition.Stored

namespace SkillTiers

theorem nonempty?_nonempty? (text : Option String) :
    nonempty? (nonempty? text) = nonempty? text := by
  simp [nonempty?, Option.filter_filter]

namespace Json

/-- What is something does not count as nothing. -/
theorem something?_something? (value : Json) :
    (value.something?.getD .null).something? = value.something? := by
  cases hnothing : value.isNothing with
  | true =>
      simp only [something?, hnothing]
      rfl
  | false => simp [something?, hnothing]

end Json

namespace StoredCondition

open Json

mutual

/-- The condition with null for what counts as nothing, where that stands for nothing. -/
def pared : StoredCondition → StoredCondition
  | ⟨metric, operator, value, metric2, combineWith, subConditions, note⟩ =>
    ⟨metric, operator, value, metric2.something?.getD .null, combineWith.something?.getD .null,
      allPared subConditions, note.something?.getD .null⟩

/-- `pared` for each condition. -/
def allPared : List StoredCondition → List StoredCondition
  | [] => []
  | condition :: rest => pared condition :: allPared rest

end

theorem allPared_eq_map (conditions : List StoredCondition) :
    allPared conditions = conditions.map pared := by
  induction conditions with
  | nil => rw [allPared, List.map_nil]
  | cons condition rest ih => rw [allPared, ih, List.map_cons]

theorem pared_eq (condition : StoredCondition) :
    condition.pared = { condition with
      metric2 := condition.metric2.something?.getD .null
      combineWith := condition.combineWith.something?.getD .null
      subConditions := allPared condition.subConditions
      note := condition.note.something?.getD .null } := by
  cases condition
  rw [pared]

/-! ### Nesting -/

theorem nesting_eq (condition : StoredCondition) :
    condition.nesting = nestingOfAll condition.subConditions + 1 := by
  cases condition
  rw [nesting]

mutual

/-- As many conditions lie in one another as before. -/
theorem nesting_pared : ∀ condition : StoredCondition, condition.pared.nesting = condition.nesting
  | ⟨_, _, _, _, _, subConditions, _⟩ => by
      rw [pared, nesting, nesting, nestingOfAll_allPared subConditions]

theorem nestingOfAll_allPared : ∀ conditions : List StoredCondition,
    nestingOfAll (allPared conditions) = nestingOfAll conditions
  | [] => by rw [allPared]
  | condition :: rest => by
      rw [allPared, nestingOfAll, nesting_pared condition, nestingOfAll_allPared rest,
        nestingOfAll]

end

/-! ### Writing and reading -/

mutual

/-- A condition is written as before. -/
theorem toJson_pared : ∀ condition : StoredCondition, condition.pared.toJson = condition.toJson
  | ⟨metric, operator, value, metric2, combineWith, subConditions, note⟩ => by
      have hempty : (allPared subConditions).isEmpty = subConditions.isEmpty := by
        rw [allPared_eq_map, List.isEmpty_map]
      rw [pared, toJson, toJson, allToJson_allPared subConditions, hempty]
      simp only [something?_something?]

theorem allToJson_allPared : ∀ conditions : List StoredCondition,
    allToJson (allPared conditions) = allToJson conditions
  | [] => by rw [allPared]
  | condition :: rest => by
      rw [allPared, allToJson, toJson_pared condition, allToJson_allPared rest, allToJson]

end

/-- The sub-conditions of a condition are those under their key. -/
theorem readSubConditions_eq (room : Nat) (fields : List (String × Json)) :
    readSubConditions room fields =
      ((lookup fields "subConditions").map (readList room)).getD (.ok []) := by
  induction fields with
  | nil => rw [readSubConditions, lookup_nil, Option.map_none, Option.getD_none]
  | cons field rest ih =>
      obtain ⟨key, value⟩ := field
      rw [readSubConditions]
      by_cases hkey : key = "subConditions"
      · simp [hkey]
      · simp [hkey, lookup_cons_of_ne, ih]

/-- With room to spare, an object is read if its sub-conditions are. -/
theorem read_object (room : Nat) (fields : List (String × Json)) :
    read (room + 1) (.object fields) = do
      return {
        metric := (lookup fields "metric").getD (.string "")
        operator := (lookup fields "operator").getD (.string "")
        value := fieldOrNull fields "value"
        metric2 := somethingOrNull fields "metric2"
        combineWith := somethingOrNull fields "combineWith"
        subConditions := ← ((lookup fields "subConditions").map (readList room)).getD (.ok [])
        note := fieldOrNull fields "note" } := by
  rw [read, if_neg (Nat.succ_ne_zero room), Nat.add_sub_cancel, readSubConditions_eq]

theorem readItems_eq_mapM (room : Nat) (items : List Json) :
    readItems room items = items.mapM (read room) := by
  induction items with
  | nil => rw [readItems]; rfl
  | cons item rest ih => rw [readItems, ih, List.mapM_cons]

/-- What stands under the keys of a stored condition. -/
private theorem lookup_fields (condition : StoredCondition) :
    lookup condition.fields "metric" = some condition.metric ∧
      lookup condition.fields "operator" = some condition.operator ∧
      lookup condition.fields "value" =
        (if condition.value.isNull then none else some condition.value) ∧
      lookup condition.fields "metric2" = condition.metric2.something? ∧
      lookup condition.fields "combineWith" = condition.combineWith.something? ∧
      lookup condition.fields "subConditions" = (if condition.subConditions.isEmpty then none
        else some (.array (allToJson condition.subConditions))) ∧
      lookup condition.fields "note" = condition.note.something? := by
  refine ⟨?_, ?_, ?_, ?_, ?_, ?_, ?_⟩ <;>
    simp [fields, lookup_append, lookup_present, lookup_cons_of_ne]

/-- What is written as an object is read back, if its sub-conditions are. -/
private theorem read_toJson_of_subConditions (condition : StoredCondition)
    (hsubs : ∀ room, readItems room (allToJson condition.subConditions) =
      if nestingOfAll condition.subConditions ≤ room then .ok (allPared condition.subConditions)
      else .error .tooNested) (room : Nat) :
    read room condition.toJson =
      if condition.nesting ≤ room then .ok condition.pared else .error .tooNested := by
  rw [toJson_eq, nesting_eq]
  cases room with
  | zero => rw [read, if_pos rfl, if_neg (by omega)]
  | succ room =>
      obtain ⟨hmetric, hoperator, hvalue, hmetric2, hlink, hstored, hnote⟩ :=
        lookup_fields condition
      have hinner : ((lookup condition.fields "subConditions").map (readList room)).getD (.ok []) =
          if nestingOfAll condition.subConditions ≤ room then
            .ok (allPared condition.subConditions) else .error .tooNested := by
        rw [hstored, ← hsubs room]
        cases condition.subConditions with
        | nil => rw [allToJson, readItems]; rfl
        | cons sub rest =>
            rw [List.isEmpty_cons, if_neg Bool.false_ne_true, Option.map_some, Option.getD_some,
              readList]
      have hthreshold : (if condition.value.isNull then none else some condition.value).getD .null =
          condition.value := by
        cases condition.value <;> rfl
      have hsomething (value : Json) : value.something?.bind something? = value.something? := by
        unfold something?
        split_ifs with hnothing <;> simp [hnothing]
      rw [read_object, hinner, pared_eq, fieldOrNull, fieldOrNull, somethingOrNull, somethingOrNull,
        hmetric, hoperator, hvalue, hmetric2, hlink, hnote, hsomething, hsomething, hthreshold]
      by_cases hroom : nestingOfAll condition.subConditions ≤ room
      · rw [if_pos hroom, if_pos (Nat.succ_le_succ hroom)]
        rfl
      · rw [if_neg hroom, if_neg fun h => hroom (Nat.le_of_succ_le_succ h)]
        rfl

mutual

/-- What a condition is written as is read back just if there is room for it. -/
theorem read_toJson : ∀ (condition : StoredCondition) (room : Nat),
    read room condition.toJson =
      if condition.nesting ≤ room then .ok condition.pared else .error .tooNested
  | ⟨metric, operator, value, metric2, combineWith, subConditions, note⟩, room =>
      read_toJson_of_subConditions
        ⟨metric, operator, value, metric2, combineWith, subConditions, note⟩
        (readItems_allToJson subConditions) room

/-- What conditions are written as is read back just if there is room for each. -/
theorem readItems_allToJson : ∀ (conditions : List StoredCondition) (room : Nat),
    readItems room (allToJson conditions) =
      if nestingOfAll conditions ≤ room then .ok (allPared conditions) else .error .tooNested
  | [], room => by rw [allToJson, readItems, nestingOfAll, if_pos (Nat.zero_le room), allPared]
  | condition :: rest, room => by
      rw [allToJson, readItems, read_toJson condition room, readItems_allToJson rest room,
        nestingOfAll, allPared]
      by_cases hfirst : condition.nesting ≤ room
      · by_cases hrest : nestingOfAll rest ≤ room
        · rw [if_pos hfirst, if_pos hrest, if_pos (Nat.max_le.mpr ⟨hfirst, hrest⟩)]
          rfl
        · rw [if_pos hfirst, if_neg hrest, if_neg fun h => hrest (Nat.max_le.mp h).2]
          rfl
      · rw [if_neg hfirst, if_neg fun h => hfirst (Nat.max_le.mp h).1]
        rfl

end

end StoredCondition

namespace Condition

open StoredCondition

mutual

/-- The condition with none for each empty text that stands for nothing. -/
def pared : Condition → Condition
  | ⟨metric, operator, value, metric2, combineWith, subConditions, note⟩ =>
    ⟨metric, operator, value, nonempty? metric2, nonempty? combineWith,
      allPared subConditions, nonempty? note⟩

/-- `pared` for each condition. -/
def allPared : List Condition → List Condition
  | [] => []
  | condition :: rest => pared condition :: allPared rest

end

theorem allPared_eq_map (conditions : List Condition) :
    allPared conditions = conditions.map pared := by
  induction conditions with
  | nil => rw [allPared, List.map_nil]
  | cons condition rest ih => rw [allPared, ih, List.map_cons]

theorem pared_eq (condition : Condition) :
    condition.pared = { condition with
      metric2 := condition.otherMetric?
      combineWith := condition.link?
      subConditions := allPared condition.subConditions
      note := nonempty? condition.note } := by
  cases condition with
  | mk metric operator value metric2 combineWith subConditions note => rw [pared]; rfl

@[simp] theorem otherMetric?_pared (condition : Condition) :
    condition.pared.otherMetric? = condition.otherMetric? := by
  rw [pared_eq]
  exact nonempty?_nonempty? _

@[simp] theorem link?_pared (condition : Condition) :
    condition.pared.link? = condition.link? := by
  rw [pared_eq]
  exact nonempty?_nonempty? _

/-- A text or null stays one without an empty text. -/
theorem ofString?_nonempty? (text : Option String) :
    (Json.ofString? text).something?.getD .null = .ofString? (nonempty? text) := by
  rw [Json.something?_ofString?]
  cases nonempty? text <;> rfl

mutual

theorem stored_pared : ∀ condition : Condition, condition.pared.stored = condition.stored.pared
  | ⟨metric, operator, value, metric2, combineWith, subConditions, note⟩ => by
      rw [pared, stored, stored, StoredCondition.pared, allStored_allPared subConditions]
      simp only [ofString?_nonempty?]

theorem allStored_allPared : ∀ conditions : List Condition,
    allStored (allPared conditions) = StoredCondition.allPared (allStored conditions)
  | [] => by rw [allPared, allStored, StoredCondition.allPared]
  | condition :: rest => by
      rw [allPared, allStored, stored_pared condition, allStored_allPared rest, allStored,
        StoredCondition.allPared]

end

theorem textOf_ofString? (text : Option String) :
    textOf (.ofString? text) = .ok text := by
  cases text <;> rfl

mutual

/-- A condition is given back by what it is stored as. -/
theorem texts_stored : ∀ condition : Condition, condition.stored.texts = .ok condition
  | ⟨metric, operator, value, metric2, combineWith, subConditions, note⟩ => by
      rw [stored, texts, allTexts_allStored subConditions]
      simp only [textOf_ofString?]
      rfl

theorem allTexts_allStored : ∀ conditions : List Condition,
    allTexts (allStored conditions) = .ok conditions
  | [] => by rw [allStored, allTexts]
  | condition :: rest => by
      rw [allStored, allTexts, texts_stored condition, allTexts_allStored rest]
      rfl

end

theorem allToStored_eq (conditions : List Condition) :
    allToStored conditions = allToJson (allStored conditions) := by
  rw [allToJson_eq_map, allStored_eq_map, List.map_map]
  rfl

/-- A stored condition is read back for a rule, with none for each empty text that stands for
nothing. -/
theorem ofStored_toStored {condition : Condition} (hroom : condition.stored.nesting ≤ maxNesting) :
    ofStored (toStored condition) = .ok condition.pared := by
  unfold ofStored ofStoredWithin toStored
  rw [read_toJson, if_pos hroom, ← stored_pared]
  exact texts_stored condition.pared

/-- So is a list of stored conditions. -/
theorem ofStoredList_allToStored {conditions : List Condition}
    (hroom : nestingOfAll (allStored conditions) ≤ maxNesting) :
    ofStoredList (.array (allToStored conditions)) = .ok (allPared conditions) := by
  unfold ofStoredList
  rw [readList, allToStored_eq, readItems_allToJson, if_pos hroom, ← allStored_allPared]
  exact allTexts_allStored (allPared conditions)

end Condition

end SkillTiers
