/-
# Rules that can be shown

A rule whose conditions are too high can be stored but not put into an answer. How high
conditions are is settled by how many of them lie in one another, as long as their
thresholds are plain: up to 128 can be shown (`Condition.isLow_of_fits`). A change of a
table whose conditions are low leaves them low, unless it brings conditions that are not;
seed rules are always low.
-/

import SkillTiers.Proofs.Service.Table
import SkillTiers.Proofs.Store.Soundness

namespace SkillTiers

namespace Json

theorem heightOfItems_le_iff {items : List Json} {bound : Nat} :
    heightOfItems items ≤ bound ↔ ∀ item ∈ items, height item ≤ bound := by
  induction items with
  | nil => simp [heightOfItems]
  | cons item rest ih => simp [heightOfItems, ih]

theorem heightOfFields_le_iff {fields : List (String × Json)} {bound : Nat} :
    heightOfFields fields ≤ bound ↔ ∀ field ∈ fields, height field.2 ≤ bound := by
  induction fields with
  | nil => simp [heightOfFields]
  | cons field rest ih =>
      obtain ⟨key, value⟩ := field
      simp [heightOfFields, ih]

/-- There is nothing in a plain value. -/
theorem IsPlain.height_eq {value : Json} (hplain : value.IsPlain) : value.height = 1 := by
  cases value with
  | array items => simp [IsPlain, Json.allow] at hplain
  | object fields => simp [IsPlain, Json.allow] at hplain
  | _ => simp [height]

mutual

/-- Without its doubles that are not finite a value is finite. -/
theorem isFinite_onlyFinite : ∀ value : Json, value.onlyFinite.isFinite = true
  | .number (.float value) => by
      rw [onlyFinite, ofFinite]
      split
      · rename_i hfinite
        rw [isFinite, hfinite]
      · simp only [isFinite]
  | .array items => by
      rw [onlyFinite, isFinite, areFinite_onlyFiniteItems items]
  | .object fields => by
      rw [onlyFinite, isFinite, fieldsAreFinite_onlyFiniteFields fields]
  | .null | .bool _ | .string _ | .number (.int _) => by simp [onlyFinite, isFinite]

theorem areFinite_onlyFiniteItems : ∀ items : List Json, areFinite (onlyFiniteItems items) = true
  | [] => by rw [onlyFiniteItems, areFinite]
  | item :: rest => by
      rw [onlyFiniteItems, areFinite, isFinite_onlyFinite item, areFinite_onlyFiniteItems rest]
      rfl

theorem fieldsAreFinite_onlyFiniteFields : ∀ fields : List (String × Json),
    fieldsAreFinite (onlyFiniteFields fields) = true
  | [] => by rw [onlyFiniteFields, fieldsAreFinite]
  | (_, value) :: rest => by
      rw [onlyFiniteFields, fieldsAreFinite, isFinite_onlyFinite value,
        fieldsAreFinite_onlyFiniteFields rest]
      rfl

end

end Json

namespace Condition

open Json

/-- The conditions are low enough to be put into an answer. -/
def IsLow (conditions : List Condition) : Prop :=
  (Json.array (allToStored conditions)).height ≤ Service.maxHeight

/-- Each of the conditions in one another adds a list and an object. -/
theorem Fits.height_le {depth : Nat} {condition : Condition} (hfits : Fits depth condition) :
    (toStored condition).height ≤ 2 * depth := by
  induction hfits with
  | @mk depth condition hvalue hsubs ih =>
      rw [toStored_eq, Json.height, Nat.mul_succ]
      apply Nat.succ_le_succ
      rw [heightOfFields_le_iff]
      apply forall_storedFields fun value => value.height ≤ 2 * depth + 1
      · intro text
        simp [Json.height]
      · simp [Json.height]
      · rw [hvalue.height_eq]
        exact Nat.le_add_left 1 _
      · intro _
        rw [Json.height]
        apply Nat.succ_le_succ
        rw [heightOfItems_le_iff, allToStored, List.forall_mem_map]
        exact ih

/-- Conditions with plain thresholds are low if at most 128 of them lie in one another. -/
theorem isLow_of_fits {depth : Nat} (hdepth : depth ≤ 128) {conditions : List Condition}
    (hfits : ∀ condition ∈ conditions, Fits depth condition) : IsLow conditions := by
  have hitems : heightOfItems (allToStored conditions) ≤ 256 := by
    rw [heightOfItems_le_iff, allToStored, List.forall_mem_map]
    intro condition hmem
    have hheight := (hfits condition hmem).height_le
    omega
  unfold IsLow Service.maxHeight
  rw [Json.height]
  omega

/-- Empty texts are not stored. -/
theorem isLow_allPared {conditions : List Condition} :
    IsLow (allPared conditions) ↔ IsLow conditions := by
  unfold IsLow
  rw [allToStored_allPared]

end Condition

open Condition

namespace Service

/-- A rule is shown if its conditions are low, with numbers that are all finite; and if they
are not it is not. -/
theorem ruleJson_cases (stored : StoredRule) :
    (∃ shown, ruleJson stored = .ok shown ∧ IsLow stored.rule.conditions ∧
      shown.isFinite = true ∧ shown.field? "code" = none) ∨
    (ruleJson stored = .error .tooHigh ∧ ¬ IsLow stored.rule.conditions) := by
  have htext (text : Option String) : (Json.ofString? text).isFinite = true := by
    cases text <;> simp [Json.ofString?, Json.isFinite]
  unfold ruleJson
  dsimp only
  split
  · rename_i hhigh
    exact .inr ⟨rfl, Nat.not_le.mpr hhigh⟩
  · rename_i hlow
    refine .inl ⟨_, rfl, Nat.not_lt.mp hlow, ?_, rfl⟩
    simp [Json.isFinite, Json.fieldsAreFinite, Json.ofInt, Json.isFinite_onlyFinite, htext]

end Service

namespace Row

/-- The conditions in the row are low, if there are any. -/
def IsLow (row : Row) : Prop :=
  ∀ conditions, row.readConditions = .ok conditions → Condition.IsLow conditions

/-- Whether a row is low depends on its conditions alone. -/
theorem IsLow.congr {row other : Row} (hrow : row.IsLow)
    (hsame : other.conditions = row.conditions) : other.IsLow := by
  intro conditions hread
  rw [readConditions_congr hsame] at hread
  exact hrow conditions hread

/-- The rule in a low row has low conditions. -/
theorem IsLow.rule {row : Row} {stored : StoredRule} (hrow : row.IsLow)
    (hstored : row.toRule = .ok stored) : Condition.IsLow stored.rule.conditions := by
  obtain ⟨tier, conditions, -, hread, rfl⟩ := toRule_ok_iff.mp hstored
  exact hrow conditions hread

/-- A row with the text of low conditions is low. -/
theorem isLow_of_text {row : Row} {conditions : List Condition} {depth : Nat}
    (hdepth : 2 * depth ≤ Json.maxRoom)
    (htext : row.conditions = .string (Json.array (allToStored conditions)).text)
    (hfits : ∀ condition ∈ conditions, Fits depth condition)
    (hlow : Condition.IsLow conditions) : row.IsLow := by
  intro found hfound
  rw [readConditions_fits hdepth htext hfits] at hfound
  cases hfound
  exact isLow_allPared.mpr hlow

/-- A row that is inserted for a rule with low conditions is low. -/
theorem Inserts.isLow {actor : Option String} {rule : Rule} {row : Row} {depth : Nat}
    (hrow : Inserts actor rule row) (hdepth : 2 * depth ≤ Json.maxRoom)
    (hfits : ∀ condition ∈ rule.conditions, Fits depth condition)
    (hlow : Condition.IsLow rule.conditions) : row.IsLow := by
  cases hrow with
  | mk instant htier hid => exact isLow_of_text hdepth rfl hfits hlow

/-- A low row is low after a change that brings low conditions or none. -/
theorem IsLow.updated {row : Row} {change : RuleChange} (hrow : row.IsLow)
    (hfits : ∀ conditions ∈ change.conditions, ∀ condition ∈ conditions, Fits maxDepth condition)
    (hlow : ∀ conditions ∈ change.conditions, Condition.IsLow conditions) :
    (row.updated change.toUpdate).IsLow := by
  cases hgiven : change.conditions with
  | none =>
      apply hrow.congr
      simp [Row.updated, RuleChange.toUpdate, hgiven]
  | some given =>
      have hdepth : 2 * maxDepth ≤ Json.maxRoom := by decide
      apply isLow_of_text hdepth _ (hfits given hgiven) (hlow given hgiven)
      simp [Row.updated, RuleChange.toUpdate, hgiven]

end Row

namespace Seed

/-- The rows of the seed rules are low. -/
theorem isLow_of_mem {actor : Option String} {number : Nat} {rows : List Row}
    (hseeded : List.Forall₂ (Row.Inserts actor) (rules number) rows) :
    ∀ row ∈ rows, row.IsLow := by
  intro row hmem
  obtain ⟨seed, hseed, hrow⟩ := exists_of_mem_forall₂ hseeded hmem
  obtain ⟨id, tier, rfl⟩ := mem_rules hseed
  exact hrow.isLow (by decide) (fits_conditions tier)
    (isLow_of_fits (by decide) (fits_conditions tier))

end Seed

namespace Service

open Renewal

variable {request : Request} {endpoint : Endpoint} {ruleId : String}

/-- It holds of the conditions of the rule or the change in the body of a request. -/
def Brings (holds : List Condition → Prop) (request : Request) : Endpoint → Prop
  | .createRule => ∀ draft, readBody RuleDraft.read request = .valid draft →
      holds draft.conditions
  | .updateRule => ∀ change, readBody RuleChange.read request = .valid change →
      ∀ conditions ∈ change.conditions, holds conditions
  | _ => True

/-- A change that brings low conditions leaves a table low. -/
theorem Revises.isLow {strict : Bool} {rows rows' : List Row}
    (hrevises : Revises strict request ruleId rows endpoint rows')
    (hbrings : Brings IsLow request endpoint) (hrows : ∀ row ∈ rows, row.IsLow) :
    ∀ row ∈ rows', row.IsLow := by
  have hmore {more : List Row} (hmore : ∀ row ∈ more, row.IsLow) :
      ∀ row ∈ rows ++ more, row.IsLow :=
    List.forall_mem_append.mpr ⟨hrows, hmore⟩
  cases hrevises with
  | @create draft issues row hbody hcheck hrow hnew =>
      obtain ⟨_, _, hread⟩ := valid_of_readBody hbody
      exact hmore (List.forall_mem_singleton.mpr (hrow.isLow (by decide)
        (RuleDraft.fits_of_read hread) (hbrings draft hbody)))
  | @update change issues row stored instant hbody hfound hstored hcheck =>
      intro written hmem
      rcases Row.mem_modify hmem with hold | ⟨old, hold, rfl⟩
      · exact hrows written hold
      obtain ⟨_, _, hread⟩ := valid_of_readBody hbody
      have hrow := hrows old (List.mem_of_find?_eq_some hold)
      exact (hrow.updated (RuleChange.fits_of_read hread) (hbrings change hbody)).congr rfl
  | delete => exact fun row hmem => hrows row (List.mem_of_mem_filter hmem)
  | reorder hbody hplaces =>
      exact hplaces.preserves (fun _ _ _ hrow => hrow.congr rfl) hrows
  | seed number hempty hseeded => exact hmore (Seed.isLow_of_mem hseeded)

end Service

end SkillTiers
