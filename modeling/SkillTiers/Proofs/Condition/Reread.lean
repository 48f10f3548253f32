/-
# Reading stored conditions back

A stored condition is read back to the same condition, except that an empty text
that stands for nothing comes back as none (`ofStored_toStored`). Such a condition
is stored as before, evaluates as before and has the same issues, so nothing is
lost by storing conditions. Their text is read back for all conditions that the
reader of texts allows (`reread_text`), and it allows them whenever their
thresholds are plain and not too many of them lie in one another (`Fits`).
-/

import SkillTiers.Condition.Issue
import SkillTiers.Proofs.Condition.Pared
import SkillTiers.Proofs.Json.Reader

namespace SkillTiers

namespace Condition

open Json

mutual

/-- The threshold of a condition and those of its sub-conditions, null where there is
none. -/
def thresholds : Condition → List Json
  | ⟨_, _, value, _, _, subConditions, _⟩ => value :: allThresholds subConditions

/-- The thresholds of all conditions and of their sub-conditions. -/
def allThresholds : List Condition → List Json
  | [] => []
  | condition :: rest => thresholds condition ++ allThresholds rest

end

theorem allThresholds_eq_flatMap (conditions : List Condition) :
    allThresholds conditions = conditions.flatMap thresholds := by
  induction conditions with
  | nil => rw [allThresholds, List.flatMap_nil]
  | cons condition rest ih => rw [allThresholds, ih, List.flatMap_cons]

/-! ### What does not change -/

/-- Without its empty texts a condition is stored as before. -/
theorem toStored_pared (condition : Condition) :
    toStored condition.pared = toStored condition := by
  rw [toStored, stored_pared, StoredCondition.toJson_pared, toStored]

/-- Without their empty texts conditions are stored as before. -/
theorem allToStored_allPared (conditions : List Condition) :
    allToStored (allPared conditions) = allToStored conditions := by
  rw [allToStored_eq, allStored_allPared, StoredCondition.allToJson_allPared, allToStored_eq]

theorem storedAlike_pared (condition : Condition) : StoredAlike condition.pared condition :=
  congrArg sortKeys (toStored_pared condition)

/-- Items that an inspection cannot tell apart have the same issues in the same places. -/
private theorem issuesFrom_map {inspect : String → Condition → Outcome (List Issue)}
    {change : Condition → Condition}
    (hsame : ∀ path condition, inspect path (change condition) = inspect path condition)
    (path : String) (index : Nat) (conditions : List Condition) :
    issuesFrom inspect path index (conditions.map change) =
      issuesFrom inspect path index conditions := by
  induction conditions generalizing index with
  | nil => rw [List.map_nil]
  | cons condition rest ih => rw [List.map_cons, issuesFrom, hsame, ih, issuesFrom]

private theorem ownIssues_pared (path : String) (condition : Condition) :
    condition.pared.ownIssues path = condition.ownIssues path := by
  unfold ownIssues linkIssues rightIssues
  rw [comparison_alike (storedAlike_pared condition), link?_pared, pared_eq]

private theorem subIssues_pared (path : String) (sub : Condition) :
    subIssues path sub.pared = subIssues path sub := by
  unfold subIssues
  rw [ownIssues_pared, pared_eq, allPared_eq_map, List.isEmpty_map]

private theorem deepIssues_pared (path : String) (condition : Condition) :
    deepIssues path condition.pared = deepIssues path condition := by
  unfold deepIssues
  rw [ownIssues_pared, pared_eq, allPared_eq_map, issuesFrom_map subIssues_pared]

/-- Empty texts that stand for nothing are no issues. -/
theorem issues_allPared (path : String) (conditions : List Condition) :
    issues path (allPared conditions) = issues path conditions := by
  unfold issues
  rw [allPared_eq_map, issuesFrom_map deepIssues_pared]

/-! ### The text of conditions -/

/-- What is true of texts, null, the threshold and the stored sub-conditions is true of
the value of every stored field. -/
theorem forall_storedFields (holds : Json → Prop) {condition : Condition}
    (htext : ∀ text, holds (.string text)) (hnull : holds .null) (hvalue : holds condition.value)
    (hsubs : condition.subConditions ≠ [] →
      holds (.array (allToStored condition.subConditions))) :
    ∀ field ∈ storedFields condition, holds field.2 := by
  have hlisted (text : Option String) : holds (.ofString? text) := by
    cases text with
    | none => exact hnull
    | some text => exact htext text
  have hpresent (key : String) (value : Option Json) (hholds : ∀ some ∈ value, holds some) :
      ∀ field ∈ present key value, holds field.2 := by
    cases value with
    | none => exact fun _ hmem => absurd hmem List.not_mem_nil
    | some value => simpa [present] using hholds
  have htexts (key : String) (text : Option String) :
      ∀ field ∈ present key (text.map Json.string), holds field.2 := by
    apply hpresent
    intro value hmem
    obtain ⟨text, -, rfl⟩ := Option.map_eq_some_iff.mp hmem
    exact htext text
  unfold storedFields
  simp only [List.forall_mem_append, List.forall_mem_cons]
  refine ⟨⟨⟨⟨⟨⟨hlisted _, hlisted _, ?_⟩, hpresent _ _ ?_⟩, htexts _ _⟩, htexts _ _⟩,
    hpresent _ _ ?_⟩, htexts _ _⟩
  · exact fun _ hmem => absurd hmem List.not_mem_nil
  · intro value hmem
    split at hmem
    · cases hmem
    · exact Option.some.inj hmem ▸ hvalue
  · intro value hmem
    split at hmem
    · cases hmem
    · rename_i hsome
      apply Option.some.inj hmem ▸ hsubs
      exact fun hnone => hsome (List.isEmpty_iff.mpr hnone)

mutual

/-- A stored condition has each key once, if its thresholds do. -/
theorem keysOnce_toStored : ∀ condition : Condition,
    (∀ threshold ∈ thresholds condition, KeysOnce threshold) → KeysOnce (toStored condition)
  | ⟨metric, operator, value, metric2, combineWith, subConditions, note⟩, hkeys => by
      rw [thresholds, List.forall_mem_cons] at hkeys
      have hsubs := keysOnce_allToStored subConditions hkeys.2
      rw [toStored_eq, KeysOnce, fieldsKeysOnce_iff]
      refine ⟨(storedFields_tells _).nodup, forall_storedFields KeysOnce ?_ ?_ hkeys.1 ?_⟩
      · intro text
        simp [KeysOnce]
      · simp [KeysOnce]
      · intro _
        rw [KeysOnce, allKeysOnce_iff]
        exact hsubs

/-- Stored conditions have each key once, if their thresholds do. -/
theorem keysOnce_allToStored : ∀ conditions : List Condition,
    (∀ threshold ∈ allThresholds conditions, KeysOnce threshold) →
      ∀ stored ∈ allToStored conditions, KeysOnce stored
  | [], _ => List.forall_mem_nil _
  | condition :: rest, hkeys => by
      rw [allThresholds, List.forall_mem_append] at hkeys
      rw [allToStored, List.map_cons, List.forall_mem_cons]
      exact ⟨keysOnce_toStored condition hkeys.1, keysOnce_allToStored rest hkeys.2⟩

end

mutual

/-- Where there is room for the object that a condition is written as, there is room for the
conditions in it: an object and an array for each but the innermost. -/
theorem nesting_of_allow : ∀ (condition : StoredCondition) {room : Nat},
    allow room condition.toJson = .ok () → 2 * condition.nesting ≤ room + 1
  | ⟨metric, operator, value, metric2, combineWith, subConditions, note⟩, room, hallowed => by
      have hsubs := @nestingOfAll_of_allow subConditions
      rw [StoredCondition.toJson_eq, allow] at hallowed
      split_ifs at hallowed with hroom
      rw [StoredCondition.nesting]
      cases hempty : subConditions with
      | nil =>
          rw [StoredCondition.nestingOfAll]
          omega
      | cons sub rest =>
          have harray := allowFields_ok_iff.mp hallowed
            ("subConditions", .array (StoredCondition.allToJson subConditions))
            (by simp [StoredCondition.fields, present, hempty])
          rw [allow] at harray
          split_ifs at harray with hmore
          have hnesting := hsubs (allowItems_ok_iff.mp harray)
          rw [hempty] at hnesting
          omega

/-- So it is for each of several conditions. -/
theorem nestingOfAll_of_allow : ∀ (conditions : List StoredCondition) {room : Nat},
    (∀ item ∈ StoredCondition.allToJson conditions, allow room item = .ok ()) →
      2 * StoredCondition.nestingOfAll conditions ≤ room + 1
  | [], _, _ => by
      rw [StoredCondition.nestingOfAll]
      exact Nat.zero_le _
  | condition :: rest, room, hallowed => by
      rw [StoredCondition.allToJson, List.forall_mem_cons] at hallowed
      have hfirst := nesting_of_allow condition hallowed.1
      have hrest := nestingOfAll_of_allow rest hallowed.2
      rw [StoredCondition.nestingOfAll]
      omega

end

/-- Conditions that can be written and read as a text can be read as conditions. -/
theorem nestingOfAll_le_of_allow {conditions : List Condition}
    (hallowed : allow maxRoom (.array (allToStored conditions)) = .ok ()) :
    StoredCondition.nestingOfAll (allStored conditions) ≤ StoredCondition.maxNesting := by
  rw [allow, if_neg (by decide), allToStored_eq] at hallowed
  have hnesting := nestingOfAll_of_allow _ (allowItems_ok_iff.mp hallowed)
  have hroom : maxRoom - 1 + 1 = 2 * StoredCondition.maxNesting + 1 := by decide
  omega

/-- The text of stored conditions is read back to them, without their empty texts, if
the reader allows it. -/
theorem reread_text {conditions : List Condition}
    (hkeys : ∀ threshold ∈ allThresholds conditions, KeysOnce threshold) :
    (do ofStoredList (← Outcome.ofReading (parse (Json.array (allToStored conditions)).text))) =
      (Outcome.ofReading (allow maxRoom (.array (allToStored conditions)))).map
        fun _ => allPared conditions := by
  have hstored : KeysOnce (.array (allToStored conditions)) := by
    rw [KeysOnce, allKeysOnce_iff]
    exact keysOnce_allToStored conditions hkeys
  rw [parse_text hstored]
  cases hallowed : allow maxRoom (.array (allToStored conditions)) with
  | error fault => cases fault <;> rfl
  | ok _ => exact ofStoredList_allToStored (nestingOfAll_le_of_allow hallowed)

/-! ### Conditions that every reader allows -/

/-- The thresholds of the condition are plain, and at most so many conditions lie in one
another in it, itself included. -/
inductive Fits : Nat → Condition → Prop where
  | mk {depth : Nat} {condition : Condition} (hvalue : condition.value.IsPlain)
      (hsubs : ∀ sub ∈ condition.subConditions, Fits depth sub) : Fits (depth + 1) condition

/-- All thresholds of a condition that fits are plain. -/
theorem Fits.isPlain {depth : Nat} {condition : Condition} (hfits : Fits depth condition) :
    ∀ threshold ∈ thresholds condition, threshold.IsPlain := by
  induction hfits with
  | @mk depth condition hvalue hsubs ih =>
      cases condition with
      | mk metric operator value metric2 combineWith subConditions note =>
          rw [thresholds, allThresholds_eq_flatMap, List.forall_mem_cons, List.forall_mem_flatMap]
          exact ⟨hvalue, ih⟩

/-- A stored condition takes room for itself and, below it, for an array and a condition
at each further depth. -/
theorem Fits.allow {depth : Nat} {condition : Condition} (hfits : Fits depth condition) :
    ∀ {room : Nat}, 2 * depth ≤ room + 1 → Json.allow room (toStored condition) = .ok () := by
  induction hfits with
  | @mk depth condition hvalue hsubs ih =>
      intro room hroom
      obtain ⟨left, rfl⟩ : ∃ left, room = left + 1 := ⟨room - 1, by omega⟩
      rw [toStored_eq, Json.allow, if_neg (Nat.succ_ne_zero left)]
      apply allowFields_ok_iff.mpr
      rw [Nat.add_sub_cancel]
      apply forall_storedFields fun value => Json.allow left value = .ok ()
      · intro text
        simp [Json.allow]
      · simp [Json.allow]
      · exact hvalue.allow left
      · intro hsome
        obtain ⟨sub, hsub⟩ := List.exists_mem_of_ne_nil _ hsome
        have hdepth : 0 < depth := by
          cases hsubs sub hsub with
          | mk => exact Nat.succ_pos _
        rw [Json.allow, if_neg (by omega)]
        apply allowItems_ok_iff.mpr
        rw [allToStored, List.forall_mem_map]
        exact fun sub hmem => ih sub hmem (by omega)

/-- There is room for conditions that fit. -/
theorem allow_fits {depth : Nat} (hdepth : 2 * depth ≤ maxRoom) {conditions : List Condition}
    (hfits : ∀ condition ∈ conditions, Fits depth condition) :
    Json.allow maxRoom (.array (allToStored conditions)) = .ok () := by
  rw [Json.allow, if_neg (by decide)]
  apply allowItems_ok_iff.mpr
  rw [allToStored, List.forall_mem_map]
  exact fun condition hmem => (hfits condition hmem).allow hdepth

/-- Conditions that fit are read back from their text, without their empty texts. -/
theorem reread_fits {depth : Nat} (hdepth : 2 * depth ≤ maxRoom) {conditions : List Condition}
    (hfits : ∀ condition ∈ conditions, Fits depth condition) :
    (do ofStoredList (← Outcome.ofReading (parse (Json.array (allToStored conditions)).text))) =
      .ok (allPared conditions) := by
  have hkeys : ∀ threshold ∈ allThresholds conditions, KeysOnce threshold := by
    rw [allThresholds_eq_flatMap, List.forall_mem_flatMap]
    exact fun condition hmem threshold hthreshold =>
      ((hfits condition hmem).isPlain threshold hthreshold).keysOnce
  rw [reread_text hkeys, allow_fits hdepth hfits]
  rfl

end Condition

end SkillTiers
