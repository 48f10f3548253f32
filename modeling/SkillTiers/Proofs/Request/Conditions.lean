/-
# Conditions in requests

A reading is valid only if all its parts are (`Reading.seq_valid`). So the conditions
that a request brings have plain thresholds and do not lie too deep in one another
(`Condition.fits_of_readList`), and hence can be stored and read back.
-/

import SkillTiers.Proofs.Condition.Reread
import SkillTiers.Request.Bodies

namespace SkillTiers

namespace Reading

variable {α β : Type}

/-- Both sides of a valid reading are valid. -/
theorem seq_valid {read : Reading (α → β)} {argument : Reading α} {result : β}
    (hvalid : read <*> argument = .valid result) :
    ∃ function value, read = .valid function ∧ argument = .valid value ∧
      result = function value := by
  change combine read argument = .valid result at hvalid
  cases read with
  | invalid problems => cases argument <;> cases hvalid
  | valid function =>
      cases argument with
      | invalid problems => cases hvalid
      | valid value =>
          cases hvalid
          exact ⟨function, value, rfl, rfl, rfl⟩

/-- What is made of a reading is valid only if the reading is. -/
theorem map_valid {function : α → β} {read : Reading α} {result : β}
    (hvalid : function <$> read = .valid result) :
    ∃ value, read = .valid value ∧ result = function value := by
  have hseq : Reading.valid function <*> read = .valid result := hvalid
  obtain ⟨_, value, hfunction, hread, hresult⟩ := seq_valid hseq
  cases hfunction
  exact ⟨value, hread, hresult⟩

/-- What is read from fields is read from an object. -/
theorem record_valid {otherwise : ProblemKind} {read : List (String × Json) → Reading α}
    {value : Json} {result : α} (hvalid : record otherwise read value = .valid result) :
    ∃ fields, read fields = .valid result := by
  cases value with
  | object fields => exact ⟨fields, hvalid⟩
  | _ => cases hvalid

theorem under_valid {step : PathStep} {read : Reading α} {value : α}
    (hvalid : read.under step = .valid value) : read = .valid value := by
  cases read with
  | valid other => exact hvalid
  | invalid problems => cases hvalid

/-- A valid field that has a default is missing, or its value is valid. -/
theorem withDefault_cases {fields : List (String × Json)} {key : String} {default value : α}
    {read : Json → Reading α} (hvalid : withDefault fields key default read = .valid value) :
    (Json.lookup fields key = none ∧ value = default) ∨
      ∃ given, Json.lookup fields key = some given ∧ read given = .valid value := by
  unfold withDefault at hvalid
  cases hlookup : Json.lookup fields key with
  | none =>
      rw [hlookup] at hvalid
      cases hvalid
      exact .inl ⟨rfl, rfl⟩
  | some given =>
      rw [hlookup] at hvalid
      exact .inr ⟨given, rfl, under_valid hvalid⟩

/-- A valid field that must be there is there, and its value is valid. -/
theorem required_valid {fields : List (String × Json)} {key : String} {value : α}
    {read : Json → Reading α} (hvalid : required fields key read = .valid value) :
    ∃ given, Json.lookup fields key = some given ∧ read given = .valid value := by
  unfold required at hvalid
  cases hlookup : Json.lookup fields key with
  | none =>
      rw [hlookup] at hvalid
      cases hvalid
  | some given =>
      rw [hlookup] at hvalid
      exact ⟨given, rfl, under_valid hvalid⟩

/-- A valid field that need not be there is missing or null, or its value is valid. -/
theorem optional_cases {fields : List (String × Json)} {key : String} {value? : Option α}
    {read : Json → Reading α} (hvalid : optional fields key read = .valid value?) :
    (value? = none ∧ (Json.lookup fields key).getD .null = .null) ∨
      ∃ given value, Json.lookup fields key = some given ∧ read given = .valid value ∧
        value? = some value := by
  rcases withDefault_cases hvalid with ⟨hlookup, rfl⟩ | ⟨given, hlookup, hgiven⟩
  · rw [hlookup]
    exact .inl ⟨rfl, rfl⟩
  · rw [hlookup]
    unfold nullable at hgiven
    split at hgiven
    · cases hgiven
      exact .inl ⟨rfl, rfl⟩
    · obtain ⟨value, hread, rfl⟩ := map_valid hgiven
      exact .inr ⟨_, value, rfl, hread, rfl⟩

/-- The value of a valid field that need not be there is valid. -/
theorem optional_valid {fields : List (String × Json)} {key : String} {value? : Option α}
    {read : Json → Reading α} (hvalid : optional fields key read = .valid value?) :
    ∀ value ∈ value?, ∃ given, read given = .valid value := by
  intro value hmem
  cases hmem
  rcases optional_cases hvalid with ⟨hnone, -⟩ | ⟨given, other, -, hread, hsome⟩
  · cases hnone
  · cases hsome
    exact ⟨given, hread⟩

theorem converted_valid {convert : Json → Except ProblemKind α} {given : Json} {value : α}
    (hvalid : converted convert given = .valid value) : convert given = .ok value := by
  unfold converted at hvalid
  split at hvalid
  · rename_i hconvert
    cases hvalid
    exact hconvert
  · cases hvalid

theorem text_valid {given : Json} {value : String} (hvalid : text given = .valid value) :
    given = .string value := by
  cases given with
  | string other =>
      cases hvalid
      rfl
  | _ => cases hvalid

theorem word_valid {meaning? : String → Option α} {given : Json} {meaning : α}
    (hvalid : word meaning? given = .valid meaning) :
    ∃ value, given = .string value ∧ meaning? value = some meaning := by
  cases given with
  | string value =>
      simp only [word] at hvalid
      cases hmeaning : meaning? value with
      | none =>
          rw [hmeaning] at hvalid
          cases hvalid
      | some other =>
          rw [hmeaning] at hvalid
          cases hvalid
          exact ⟨value, rfl, hmeaning⟩
  | _ => cases hvalid

end Reading

namespace Condition

open Reading

/-- Nothing but an object is read as a condition. -/
private theorem readAt_other {value : Json} (hother : ∀ fields, value ≠ .object fields)
    {otherwise : ProblemKind} {depth : Nat} {condition : Condition} :
    readAt otherwise depth value ≠ .valid condition := by
  rw [readAt]
  · intro h
    cases h
  · exact hother

/-- Nothing but an array is read as a list of conditions. -/
private theorem readListAt_other {value : Json} (hother : ∀ items, value ≠ .array items)
    {otherwise : ProblemKind} {depth : Nat} {conditions : List Condition} :
    readListAt otherwise depth value ≠ .valid conditions := by
  rw [readListAt]
  · intro h
    cases h
  · exact hother

/-- The fields of an object are valid, and they are those of the condition. -/
structure IsReadFrom (otherwise : ProblemKind) (depth : Nat) (fields : List (String × Json))
    (condition : Condition) : Prop where
  metric : ∃ value, required fields "metric" text = .valid value ∧ condition.metric = some value
  operator : ∃ value, required fields "operator" text = .valid value ∧
    condition.operator = some value
  value : ∃ double?, optional fields "value" double = .valid double? ∧
    condition.value = double?.elim .null fun double => .number (.float double)
  metric2 : optional fields "metric2" text = .valid condition.metric2
  combineWith : optional fields (keyAmong fields "combineWith" "combine_with") (word link) =
    .valid condition.combineWith
  subConditions : readSubConditions otherwise depth
    (keyAmong fields "subConditions" "sub_conditions") fields = .valid condition.subConditions
  note : optional fields "note" text = .valid condition.note

/-- A condition that is read from an object is read from its fields, and it does not lie too
deep. -/
theorem isReadFrom_of_readAt {otherwise : ProblemKind} {depth : Nat}
    {fields : List (String × Json)} {condition : Condition}
    (hvalid : readAt otherwise depth (.object fields) = .valid condition) :
    depth < maxDepth ∧ IsReadFrom otherwise depth fields condition := by
  rw [readAt] at hvalid
  split at hvalid
  · rename_i hdepth
    obtain ⟨_, note, hsix, hnote, rfl⟩ := seq_valid hvalid
    obtain ⟨_, subs, hfive, hsubs, rfl⟩ := seq_valid hsix
    obtain ⟨_, link?, hfour, hlink, rfl⟩ := seq_valid hfive
    obtain ⟨_, metric2, hthree, hmetric2, rfl⟩ := seq_valid hfour
    obtain ⟨_, value, htwo, hvalue, rfl⟩ := seq_valid hthree
    obtain ⟨_, operator, hone, hoperator, rfl⟩ := seq_valid htwo
    obtain ⟨metric, hmetric, rfl⟩ := map_valid hone
    exact ⟨hdepth, map_valid hmetric, map_valid hoperator, map_valid hvalue, hmetric2, hlink, hsubs,
      hnote⟩
  · cases hvalid

mutual

/-- A condition that lies in some others has plain thresholds, and no more conditions
lie in it than there is room for. -/
theorem fits_of_readAt : ∀ (value : Json) {otherwise : ProblemKind} {depth : Nat}
    {condition : Condition}, readAt otherwise depth value = .valid condition →
      Fits (maxDepth - depth) condition
  | .object fields, otherwise, depth, condition, hvalid => by
      obtain ⟨hdepth, hread⟩ := isReadFrom_of_readAt hvalid
      obtain ⟨threshold?, -, hvalue⟩ := hread.value
      have hroom : maxDepth - depth = maxDepth - (depth + 1) + 1 := by omega
      rw [hroom]
      refine .mk ?_ (fits_of_readSubConditions fields hread.subConditions)
      rw [hvalue]
      cases threshold? <;> simp [Json.IsPlain, Json.allow]
  | .null, _, _, _, hvalid | .bool _, _, _, _, hvalid | .number _, _, _, _, hvalid
  | .string _, _, _, _, hvalid | .array _, _, _, _, hvalid =>
      absurd hvalid (readAt_other (by simp))

/-- So are the sub-conditions of a condition. -/
theorem fits_of_readSubConditions : ∀ (fields : List (String × Json)) {otherwise : ProblemKind}
    {depth : Nat} {key : String} {conditions : List Condition},
      readSubConditions otherwise depth key fields = .valid conditions →
        ∀ condition ∈ conditions, Fits (maxDepth - (depth + 1)) condition
  | [], _, _, _, _, hvalid => by
      rw [readSubConditions] at hvalid
      cases hvalid
      exact fun _ hmem => absurd hmem List.not_mem_nil
  | (name, value) :: rest, _, _, _, _, hvalid => by
      rw [readSubConditions] at hvalid
      split at hvalid
      · exact fits_of_readListAt value (under_valid hvalid)
      · exact fits_of_readSubConditions rest hvalid

/-- So are the conditions of a list. -/
theorem fits_of_readListAt : ∀ (value : Json) {otherwise : ProblemKind} {depth : Nat}
    {conditions : List Condition}, readListAt otherwise depth value = .valid conditions →
      ∀ condition ∈ conditions, Fits (maxDepth - depth) condition
  | .array items, _, _, _, hvalid => by
      rw [readListAt] at hvalid
      exact fits_of_readItems items hvalid
  | .null, _, _, _, hvalid | .bool _, _, _, _, hvalid | .number _, _, _, _, hvalid
  | .string _, _, _, _, hvalid | .object _, _, _, _, hvalid =>
      absurd hvalid (readListAt_other (by simp))

/-- So are conditions one by one. -/
theorem fits_of_readItems : ∀ (items : List Json) {otherwise : ProblemKind}
    {depth position : Nat} {conditions : List Condition},
      readItems otherwise depth position items = .valid conditions →
        ∀ condition ∈ conditions, Fits (maxDepth - depth) condition
  | [], _, _, _, _, hvalid => by
      rw [readItems] at hvalid
      cases hvalid
      exact fun _ hmem => absurd hmem List.not_mem_nil
  | item :: rest, _, _, _, _, hvalid => by
      rw [readItems] at hvalid
      obtain ⟨_, others, hfirst, hothers, rfl⟩ := seq_valid hvalid
      obtain ⟨condition, hcondition, rfl⟩ := map_valid hfirst
      rw [List.forall_mem_cons]
      exact ⟨fits_of_readAt item (under_valid hcondition), fits_of_readItems rest hothers⟩

end

/-- Conditions that are read fit, with room for as many in one another as are read. -/
theorem fits_of_readList {otherwise : ProblemKind} {value : Json} {conditions : List Condition}
    (hvalid : readList otherwise value = .valid conditions) :
    ∀ condition ∈ conditions, Fits maxDepth condition :=
  fits_of_readListAt value hvalid

end Condition

open Reading

/-- The conditions of a draft fit. -/
theorem RuleDraft.fits_of_read {otherwise : ProblemKind} {value : Json} {draft : RuleDraft}
    (hvalid : RuleDraft.read otherwise value = .valid draft) :
    ∀ condition ∈ draft.conditions, condition.Fits Condition.maxDepth := by
  obtain ⟨fields, hfields⟩ := record_valid hvalid
  obtain ⟨_, isActive, hthree, -, rfl⟩ := seq_valid hfields
  obtain ⟨_, displayOrder, htwo, -, rfl⟩ := seq_valid hthree
  obtain ⟨_, conditions, hone, hconditions, rfl⟩ := seq_valid htwo
  obtain ⟨level, -, rfl⟩ := map_valid hone
  rcases withDefault_cases hconditions with ⟨-, rfl⟩ | ⟨given, -, hgiven⟩
  · exact fun _ hmem => absurd hmem List.not_mem_nil
  · exact Condition.fits_of_readList hgiven

/-- The conditions that a change brings fit. -/
theorem RuleChange.fits_of_read {otherwise : ProblemKind} {value : Json} {change : RuleChange}
    (hvalid : RuleChange.read otherwise value = .valid change) :
    ∀ conditions ∈ change.conditions, ∀ condition ∈ conditions,
      condition.Fits Condition.maxDepth := by
  obtain ⟨fields, hfields⟩ := record_valid hvalid
  obtain ⟨_, isActive, hthree, -, rfl⟩ := seq_valid hfields
  obtain ⟨_, displayOrder, htwo, -, rfl⟩ := seq_valid hthree
  obtain ⟨_, conditions?, hone, hconditions, rfl⟩ := seq_valid htwo
  obtain ⟨level, -, rfl⟩ := map_valid hone
  intro conditions hmem
  obtain ⟨given, hgiven⟩ := optional_valid hconditions conditions hmem
  exact Condition.fits_of_readList hgiven

end SkillTiers
