/-
# What a stored condition tells

The stored shape of a condition has each key once and, under its keys, exactly what
compiling the condition reads (`Condition.toStored_tells`). So conditions with alike
stored shapes compile alike (`Expression.compile_alike`), although the
shape leaves out empty texts, and the remark is read by nothing.
-/

import SkillTiers.Condition.Expression
import SkillTiers.Condition.Stored
import SkillTiers.Proofs.Json.SortKeys

namespace SkillTiers

namespace Json

/-- A field that may be missing is found under its own key alone. -/
theorem lookup_present (key wanted : String) (value : Option Json) :
    lookup (present key value) wanted = if key = wanted then value else none := by
  cases value with
  | none => simp [present]
  | some value =>
      by_cases hkey : key = wanted
      · simp [present, hkey]
      · simp [present, lookup_cons_of_ne hkey, hkey]

theorem keys_present_sublist (key : String) (value : Option Json) :
    (keys (present key value)).Sublist [key] := by
  cases value with
  | none => exact List.nil_sublist _
  | some value => exact List.Sublist.refl _

/-- Of a text or null only a text that is not empty is something. -/
theorem something?_ofString? (text : Option String) :
    (ofString? text).something? = (nonempty? text).map .string := by
  cases text with
  | none => rfl
  | some text =>
      cases hempty : text.isEmpty <;>
        simp [ofString?, something?, isNothing, nonempty?, Option.filter, hempty]

end Json

namespace StoredCondition

open Json

theorem allToJson_eq_map (conditions : List StoredCondition) :
    allToJson conditions = conditions.map toJson := by
  induction conditions with
  | nil => rw [allToJson, List.map_nil]
  | cons condition rest ih => rw [allToJson, ih, List.map_cons]

/-- The fields of a stored condition, those that may be missing set apart. -/
def fields (condition : StoredCondition) : List (String × Json) :=
  [("metric", condition.metric), ("operator", condition.operator)]
    ++ present "value" (if condition.value.isNull then none else some condition.value)
    ++ present "metric2" condition.metric2.something?
    ++ present "combineWith" condition.combineWith.something?
    ++ present "subConditions" (if condition.subConditions.isEmpty then none
        else some (.array (allToJson condition.subConditions)))
    ++ present "note" condition.note.something?

/-- A stored condition is the object of its fields. -/
theorem toJson_eq (condition : StoredCondition) : condition.toJson = .object condition.fields := by
  cases condition
  rw [toJson]
  rfl

end StoredCondition

namespace Condition

open Json

theorem allStored_eq_map (conditions : List Condition) :
    allStored conditions = conditions.map stored := by
  induction conditions with
  | nil => rw [allStored, List.map_nil]
  | cons condition rest ih => rw [allStored, ih, List.map_cons]

/-- A condition has texts or null where a stored one may have any value. -/
theorem stored_eq (condition : Condition) :
    condition.stored = {
      metric := .ofString? condition.metric
      operator := .ofString? condition.operator
      value := condition.value
      metric2 := .ofString? condition.metric2
      combineWith := .ofString? condition.combineWith
      subConditions := condition.subConditions.map stored
      note := .ofString? condition.note } := by
  cases condition
  rw [stored, allStored_eq_map]

/-- What the fields of a stored condition tell about it. -/
structure Tells (fields : List (String × Json)) (condition : Condition) : Prop where
  /-- No key is there twice. -/
  nodup : (keys fields).Nodup
  metric : lookup fields "metric" = some (.ofString? condition.metric)
  operator : lookup fields "operator" = some (.ofString? condition.operator)
  value : lookup fields "value" =
    if condition.value.isNull then none else some condition.value
  metric2 : lookup fields "metric2" = condition.otherMetric?.map .string
  combineWith : lookup fields "combineWith" = condition.link?.map .string
  subConditions : lookup fields "subConditions" =
    if condition.subConditions.isEmpty then none
    else some (.array (allToStored condition.subConditions))

/-- The fields of a stored condition, those that may be missing set apart. -/
def storedFields (condition : Condition) : List (String × Json) :=
  [("metric", .ofString? condition.metric), ("operator", .ofString? condition.operator)]
    ++ present "value" (if condition.value.isNull then none else some condition.value)
    ++ present "metric2" (condition.otherMetric?.map .string)
    ++ present "combineWith" (condition.link?.map .string)
    ++ present "subConditions" (if condition.subConditions.isEmpty then none
        else some (.array (allToStored condition.subConditions)))
    ++ present "note" ((nonempty? condition.note).map .string)

/-- A condition is stored as the object of its stored fields. -/
theorem toStored_eq (condition : Condition) :
    toStored condition = .object (storedFields condition) := by
  rw [toStored, StoredCondition.toJson_eq, stored_eq]
  simp only [StoredCondition.fields, storedFields, StoredCondition.allToJson_eq_map,
    something?_ofString?, List.isEmpty_map, List.map_map]
  rfl

private theorem keys_storedFields_sublist (condition : Condition) :
    (keys (storedFields condition)).Sublist
      ["metric", "operator", "value", "metric2", "combineWith", "subConditions", "note"] := by
  unfold storedFields keys
  simp only [List.map_append]
  have hpresent := keys_present_sublist
  unfold keys at hpresent
  exact ((((((List.Sublist.refl _).append (hpresent _ _)).append (hpresent _ _)).append
    (hpresent _ _)).append (hpresent _ _)).append (hpresent _ _))

/-- Stored fields tell what compiling reads. -/
theorem storedFields_tells (condition : Condition) :
    Tells (storedFields condition) condition := by
  constructor
  · exact (keys_storedFields_sublist condition).nodup (by decide)
  all_goals
    simp [storedFields, lookup_append, lookup_present, lookup_cons_of_ne]

/-- A stored condition tells what compiling reads. -/
theorem toStored_tells (condition : Condition) :
    ∃ fields, toStored condition = .object fields ∧ Tells fields condition :=
  ⟨storedFields condition, toStored_eq condition, storedFields_tells condition⟩

/-- The text or null that is stored for a text determines it. -/
private theorem ofString?_inj {first second : Option String}
    (hsame : (Json.ofString? first).sortKeys = (Json.ofString? second).sortKeys) :
    first = second := by
  cases first with
  | none =>
      cases second with
      | none => rfl
      | some text => simp [Json.ofString?, sortKeys] at hsame
  | some text =>
      cases second with
      | none => simp [Json.ofString?, sortKeys] at hsame
      | some text' => exact congrArg some (string_of_alike hsame)

end Condition

/-- Sorting keys does not change a threshold, since no threshold looks into objects. -/
theorem Threshold.ofJson_sortKeys (value : Json) :
    Threshold.ofJson value.sortKeys = Threshold.ofJson value := by
  cases value with
  | array items => rw [Json.sortKeys]; rfl
  | object fields => rw [Json.sortKeys]; rfl
  | _ => rw [Json.sortKeys.eq_def]

namespace Condition

open Json

/-- The stored shapes differ in the order of keys at most. -/
def StoredAlike (first second : Condition) : Prop :=
  Alike first.toStored second.toStored

/-- Conditions in alike arrays are stored alike, one by one. -/
theorem storedAlike_of_alike {first second : List Condition}
    (halike : Alike (.array (allToStored first)) (.array (allToStored second))) :
    List.Forall₂ StoredAlike first second := by
  have hitems := items_alike halike
  rw [allToStored, allToStored, List.forall₂_map_left_iff, List.forall₂_map_right_iff] at hitems
  exact hitems

/-- Under each key, alike conditions store alike values, or nothing in both. -/
private theorem lookups_alike {first second : Condition} (halike : StoredAlike first second) :
    ∃ fields fields', Tells fields first ∧ Tells fields' second ∧
      ∀ key, (lookup fields key).map sortKeys = (lookup fields' key).map sortKeys := by
  obtain ⟨fields, hfields, htells⟩ := toStored_tells first
  obtain ⟨fields', hfields', htells'⟩ := toStored_tells second
  unfold StoredAlike at halike
  rw [hfields, hfields'] at halike
  exact ⟨fields, fields', htells, htells', lookup_alike halike htells.nodup htells'.nodup⟩

/-- Texts that may be missing and are stored alike are the same. -/
private theorem text_of_alike {first second : Option String}
    (halike : (first.map Json.string).map sortKeys = (second.map Json.string).map sortKeys) :
    first = second := by
  cases first with
  | none =>
      cases second with
      | none => rfl
      | some text => cases halike
  | some text =>
      cases second with
      | none => cases halike
      | some text' => exact congrArg some (string_of_alike (Option.some.inj halike))

/-- Alike conditions make the same comparison. -/
theorem comparison_alike {first second : Condition} (halike : StoredAlike first second) :
    Comparison.ofCondition first = Comparison.ofCondition second := by
  obtain ⟨fields, fields', htells, htells', hlookup⟩ := lookups_alike halike
  have hmetric : first.metric = second.metric := by
    have h := hlookup "metric"
    rw [htells.metric, htells'.metric] at h
    exact ofString?_inj (Option.some.inj h)
  have hoperator : first.operator = second.operator := by
    have h := hlookup "operator"
    rw [htells.operator, htells'.operator] at h
    exact ofString?_inj (Option.some.inj h)
  have hmetric2 : first.otherMetric? = second.otherMetric? := by
    have h := hlookup "metric2"
    rw [htells.metric2, htells'.metric2] at h
    exact text_of_alike h
  have hthreshold : Threshold.ofJson first.value = Threshold.ofJson second.value := by
    have h := hlookup "value"
    rw [htells.value, htells'.value] at h
    have hnull (value : Json) (hvalue : value.isNull = true) : value = .null := by
      cases value with
      | null => rfl
      | _ => exact absurd hvalue Bool.false_ne_true
    split_ifs at h with hfirst hsecond hsecond
    · rw [hnull _ hfirst, hnull _ hsecond]
    · cases h
    · cases h
    · rw [← Threshold.ofJson_sortKeys, Option.some.inj h, Threshold.ofJson_sortKeys]
  unfold Comparison.ofCondition Comparison.rightSide
  rw [hmetric, hoperator, hmetric2, hthreshold]

/-- Alike conditions end their groups alike. -/
theorem closesGroup_alike {first second : Condition} (halike : StoredAlike first second) :
    first.closesGroup = second.closesGroup := by
  obtain ⟨fields, fields', htells, htells', hlookup⟩ := lookups_alike halike
  have h := hlookup "combineWith"
  rw [htells.combineWith, htells'.combineWith] at h
  unfold closesGroup
  rw [text_of_alike h]

/-- The sub-conditions of alike conditions are alike. -/
theorem subConditions_alike {first second : Condition} (halike : StoredAlike first second) :
    List.Forall₂ StoredAlike first.subConditions second.subConditions := by
  obtain ⟨fields, fields', htells, htells', hlookup⟩ := lookups_alike halike
  have h := hlookup "subConditions"
  rw [htells.subConditions, htells'.subConditions] at h
  split_ifs at h with hfirst hsecond hsecond
  · rw [List.isEmpty_iff.mp hfirst, List.isEmpty_iff.mp hsecond]
    exact .nil
  · cases h
  · cases h
  · exact storedAlike_of_alike (Option.some.inj h)

/-- Alike conditions compile alike, with what must hold along with them. -/
theorem grouped_alike {first second : Condition} (halike : StoredAlike first second) :
    GroupedComparison.ofCondition first = GroupedComparison.ofCondition second := by
  have halong : first.subConditions.mapM Comparison.ofCondition =
      second.subConditions.mapM Comparison.ofCondition := by
    refine mapM_forall₂ ?_ (subConditions_alike halike)
    exact fun _ _ => comparison_alike
  unfold GroupedComparison.ofCondition
  rw [comparison_alike halike, halong]

mutual

/-- As many conditions lie in one another in alike conditions. -/
theorem nesting_alike : ∀ {first second : Condition}, StoredAlike first second →
    first.stored.nesting = second.stored.nesting
  | ⟨metric, operator, value, metric2, combineWith, subConditions, note⟩, second, halike => by
      have hsubs := nestingOfAll_alike (subConditions_alike halike)
      cases second
      rw [stored, stored, StoredCondition.nesting, StoredCondition.nesting, hsubs]

/-- So it is in lists of alike conditions. -/
theorem nestingOfAll_alike : ∀ {first second : List Condition},
    List.Forall₂ StoredAlike first second →
      StoredCondition.nestingOfAll (allStored first) =
        StoredCondition.nestingOfAll (allStored second)
  | [], _, .nil => rfl
  | condition :: rest, _, .cons halike hrest => by
      rw [allStored, allStored, StoredCondition.nestingOfAll, StoredCondition.nestingOfAll,
        nesting_alike halike, nestingOfAll_alike hrest]

end

/-- Behind one more condition, lists that are cut in the same places still are. -/
theorem groups_cons_forall₂ {related : Condition → Condition → Prop} {first second : Condition}
    (hrelated : related first second) (hcloses : first.closesGroup = second.closesGroup)
    {rest rest' : List Condition}
    (hrest : List.Forall₂ (List.Forall₂ related) (groups rest) (groups rest')) :
    List.Forall₂ (List.Forall₂ related) (groups (first :: rest)) (groups (second :: rest')) := by
  rw [groups, groups, hcloses]
  split
  · exact .cons (.cons hrelated .nil) hrest
  · revert hrest
    generalize groups rest = behind
    generalize groups rest' = behind'
    intro hrest
    cases hrest with
    | nil => exact .cons (.cons hrelated .nil) .nil
    | cons hgroup hothers => exact .cons (.cons hrelated hgroup) hothers

/-- Lists are cut into groups in the same places, if their conditions end groups alike. -/
theorem groups_forall₂ {related : Condition → Condition → Prop}
    (hcloses : ∀ first second, related first second → first.closesGroup = second.closesGroup)
    {first second : List Condition} (heach : List.Forall₂ related first second) :
    List.Forall₂ (List.Forall₂ related) (groups first) (groups second) := by
  induction heach with
  | nil => exact .nil
  | cons hcondition _ ih => exact groups_cons_forall₂ hcondition (hcloses _ _ hcondition) ih

end Condition

/-- Lists whose groups compile alike, condition by condition, compile to one expression, or
fail alike. -/
theorem Expression.compile_of_groups {related : Condition → Condition → Prop}
    (hsame : ∀ first second, related first second →
      GroupedComparison.ofCondition first = GroupedComparison.ofCondition second)
    {first second : List Condition}
    (hgroups : List.Forall₂ (List.Forall₂ related) (Condition.groups first)
      (Condition.groups second)) :
    Expression.compile first = Expression.compile second := by
  unfold Expression.compile
  rw [mapM_forall₂ (fun group group' hgroup => ?_) hgroups]
  rw [mapM_forall₂ hsame hgroup]

/-- Lists of alike conditions compile to one expression, or fail alike. -/
theorem Expression.compile_alike {first second : List Condition}
    (halike : List.Forall₂ Condition.StoredAlike first second) :
    Expression.compile first = Expression.compile second := by
  have hgroups := Condition.groups_forall₂ (fun _ _ => Condition.closesGroup_alike) halike
  exact compile_of_groups (fun _ _ => Condition.grouped_alike) hgroups

end SkillTiers
