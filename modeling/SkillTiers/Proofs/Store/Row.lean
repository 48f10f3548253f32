/-
# The rule in a row

A row gives back a rule if its level is a tier and its conditions can be read
(`Row.toRule_ok_iff`). A row that was written with the text of conditions gives back
these conditions without their empty texts, if it gives back any
(`Row.readConditions_text`), and for conditions that fit it always does. When a row
gives back no rule, the fault is in its data and not one of the database.
-/

import SkillTiers.Proofs.Condition.Reread
import SkillTiers.Proofs.Keyed
import SkillTiers.Store.Row

namespace SkillTiers

/-- The failure comes from data: it is no fault of a server, and no error that a caller
is meant to see. -/
def Failure.IsOfData : Failure → Prop
  | .service _ => False
  | .fault _ => False
  | _ => True

theorem Tier.failsWithin_ofLevel (level : String) :
    FailsWithin Failure.IsOfData (Tier.ofLevel level) := by
  unfold Tier.ofLevel
  cases Tier.ofName? level with
  | none => exact failsWithin_error trivial
  | some tier => exact failsWithin_ok _ tier

theorem Outcome.failsWithin_ofReading {α : Type} (read : Except ReadError α) :
    FailsWithin Failure.IsOfData (Outcome.ofReading read) := by
  cases read with
  | ok value => exact failsWithin_ok _ value
  | error fault => cases fault <;> exact failsWithin_error trivial

theorem Outcome.failsWithin_ofWriting {α : Type} (written : Except ReadError α) :
    FailsWithin Failure.IsOfData (Outcome.ofWriting written) := by
  cases written with
  | ok value => exact failsWithin_ok _ value
  | error fault => cases fault <;> exact failsWithin_error trivial

namespace StoredCondition

mutual

theorem failsWithin_read : ∀ (stored : Json) (room : Nat),
    FailsWithin Failure.IsOfData (read room stored)
  | .object fields, room => by
      rw [read]
      split_ifs
      · exact failsWithin_error trivial
      · exact (failsWithin_readSubConditions fields _).bind fun _ => failsWithin_ok _ _
  | .null, _ | .bool _, _ | .number _, _ | .string _, _ | .array _, _ => by
      rw [read.eq_def]
      dsimp only
      split_ifs <;> exact failsWithin_error trivial

theorem failsWithin_readSubConditions : ∀ (fields : List (String × Json)) (room : Nat),
    FailsWithin Failure.IsOfData (readSubConditions room fields)
  | [], _ => by
      rw [readSubConditions]
      exact failsWithin_ok _ _
  | (key, value) :: rest, room => by
      rw [readSubConditions]
      split
      · exact failsWithin_readList value room
      · exact failsWithin_readSubConditions rest room

theorem failsWithin_readList : ∀ (stored : Json) (room : Nat),
    FailsWithin Failure.IsOfData (readList room stored)
  | .array items, room => by
      rw [readList]
      exact failsWithin_readItems items room
  | .null, _ | .bool _, _ | .number _, _ | .string _, _ | .object _, _ => by
      rw [readList.eq_def]
      dsimp only [elementFailure]
      split_ifs <;> first | exact failsWithin_ok _ _ | exact failsWithin_error trivial

theorem failsWithin_readItems : ∀ (items : List Json) (room : Nat),
    FailsWithin Failure.IsOfData (readItems room items)
  | [], _ => by
      rw [readItems]
      exact failsWithin_ok _ _
  | item :: rest, room => by
      rw [readItems]
      exact (failsWithin_read item room).bind fun _ =>
        (failsWithin_readItems rest room).bind fun _ => failsWithin_ok _ _

end

theorem failsWithin_textOf (value : Json) : FailsWithin Failure.IsOfData (textOf value) := by
  unfold textOf
  split
  · exact failsWithin_ok _ _
  · exact failsWithin_ok _ _
  · exact failsWithin_error trivial

mutual

theorem failsWithin_texts : ∀ condition : StoredCondition,
    FailsWithin Failure.IsOfData condition.texts
  | ⟨metric, operator, _, metric2, combineWith, subConditions, note⟩ => by
      rw [texts]
      exact (failsWithin_textOf metric).bind fun _ => (failsWithin_textOf operator).bind fun _ =>
        (failsWithin_textOf metric2).bind fun _ => (failsWithin_textOf combineWith).bind fun _ =>
        (failsWithin_allTexts subConditions).bind fun _ => (failsWithin_textOf note).bind fun _ =>
          failsWithin_ok _ _

theorem failsWithin_allTexts : ∀ conditions : List StoredCondition,
    FailsWithin Failure.IsOfData (allTexts conditions)
  | [] => by
      rw [allTexts]
      exact failsWithin_ok _ _
  | condition :: rest => by
      rw [allTexts]
      exact (failsWithin_texts condition).bind fun _ =>
        (failsWithin_allTexts rest).bind fun _ => failsWithin_ok _ _

end

end StoredCondition

theorem Condition.failsWithin_ofStoredList (stored : Json) :
    FailsWithin Failure.IsOfData (ofStoredList stored) :=
  (StoredCondition.failsWithin_readList stored _).bind StoredCondition.failsWithin_allTexts

namespace Row

open Condition

/-- The conditions in a row. -/
def readConditions (row : Row) : Outcome (List Condition) := do
  ofStoredList (← row.conditionsValue)

/-- What a row says when it is for this tier and has these conditions. -/
def saying (row : Row) (tier : Tier) (conditions : List Condition) : StoredRule where
  rule := ⟨row.id, tier.name, conditions, row.displayOrder, row.isActive⟩
  createdBy := row.createdBy
  updatedBy := row.updatedBy
  createdAt := row.createdAt
  updatedAt := row.updatedAt

/-- A row gives back a rule if its level is a tier and its conditions can be read. -/
theorem toRule_ok_iff {row : Row} {stored : StoredRule} :
    row.toRule = .ok stored ↔ ∃ tier conditions, Tier.ofLevel row.level = .ok tier ∧
      row.readConditions = .ok conditions ∧ stored = row.saying tier conditions := by
  unfold toRule readConditions
  cases row.conditionsValue with
  | error failure => simp [bind, Except.bind]
  | ok value =>
      cases Tier.ofLevel row.level with
      | error failure => simp [bind, Except.bind]
      | ok tier =>
          cases hconditions : ofStoredList value with
          | error failure => simp [bind, Except.bind, hconditions]
          | ok conditions =>
              simp [bind, Except.bind, hconditions, pure, Except.pure, saying, eq_comm]

/-- When a row gives back no rule, the fault is in its data. -/
theorem failsWithin_toRule (row : Row) : FailsWithin Failure.IsOfData row.toRule := by
  have hvalue : FailsWithin Failure.IsOfData row.conditionsValue := by
    unfold conditionsValue
    split
    · exact Outcome.failsWithin_ofReading _
    · exact failsWithin_ok _ _
  exact hvalue.bind fun value => (Tier.failsWithin_ofLevel _).bind fun _ =>
    (failsWithin_ofStoredList value).bind fun _ => failsWithin_ok _ _

variable {row : Row} {conditions found : List Condition}

/-- The text of conditions is read back to them without their empty texts, if it is
read back at all. -/
theorem readConditions_text
    (htext : row.conditions = .string (Json.array (allToStored conditions)).text)
    (hkeys : ∀ threshold ∈ allThresholds conditions, threshold.KeysOnce)
    (hfound : row.readConditions = .ok found) : found = allPared conditions := by
  have hread := reread_text hkeys
  unfold readConditions conditionsValue at hfound
  rw [htext] at hfound
  dsimp only at hfound
  rw [hread] at hfound
  cases hallowed : Outcome.ofReading
      (Json.allow Json.maxRoom (.array (allToStored conditions))) with
  | error failure =>
      rw [hallowed] at hfound
      cases hfound
  | ok _ =>
      rw [hallowed] at hfound
      exact (Except.ok.inj hfound).symm

/-- The text of conditions that fit is read back. -/
theorem readConditions_fits {depth : Nat} (hdepth : 2 * depth ≤ Json.maxRoom)
    (htext : row.conditions = .string (Json.array (allToStored conditions)).text)
    (hfits : ∀ condition ∈ conditions, Fits depth condition) :
    row.readConditions = .ok (allPared conditions) := by
  unfold readConditions conditionsValue
  rw [htext]
  exact reread_fits hdepth hfits

end Row

end SkillTiers
