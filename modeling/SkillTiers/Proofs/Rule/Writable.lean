/-
# Rules that have a version

The version of rules needs their canonical text, and this can be made just if each of the
rules is stored as a value for which there is room beside its id and its level
(`Rule.isResult_versionOf`). Nothing else is in the way: the order of keys makes no
difference to the room, and conditions that are too deep in one another to be written at all
have no room either.
-/

import SkillTiers.Proofs.Condition.Reread
import SkillTiers.Proofs.Rule.Version

namespace SkillTiers

namespace Json

mutual

/-- The order of keys makes no difference to the room that a value takes. -/
theorem allow_sortKeys : ∀ (value : Json) (room : Nat),
    allow room value.sortKeys = .ok () ↔ allow room value = .ok ()
  | .array items, room => by
      rw [sortKeys, allow, allow]
      split
      · rfl
      · exact allowItems_sortItems items (room - 1)
  | .object fields, room => by
      rw [sortKeys, allow, allow]
      split
      · rfl
      · rw [← allowFields_sortFields fields (room - 1), allowFields_ok_iff, allowFields_ok_iff]
        simp only [(sortBy_perm _ _).mem_iff]
  | .null, _ | .bool _, _ | .number _, _ | .string _, _ => by simp only [sortKeys]

theorem allowItems_sortItems : ∀ (items : List Json) (room : Nat),
    allowItems room (sortItems items) = .ok () ↔ allowItems room items = .ok ()
  | [], _ => by rw [sortItems]
  | item :: rest, room => by
      rw [sortItems, allowItems_ok_iff, allowItems_ok_iff, List.forall_mem_cons,
        List.forall_mem_cons, ← allowItems_ok_iff, ← allowItems_ok_iff, allow_sortKeys item room,
        allowItems_sortItems rest room]

theorem allowFields_sortFields : ∀ (fields : List (String × Json)) (room : Nat),
    allowFields room (sortFields fields) = .ok () ↔ allowFields room fields = .ok ()
  | [], _ => by rw [sortFields]
  | (key, value) :: rest, room => by
      rw [sortFields, allowFields_ok_iff, allowFields_ok_iff, List.forall_mem_cons,
        List.forall_mem_cons, ← allowFields_ok_iff, ← allowFields_ok_iff, allow_sortKeys value room,
        allowFields_sortFields rest room]

end

/-- A text can be made of a value just if there is room for it. -/
theorem checkText_ok_iff {value : Json} :
    value.checkText = .ok () ↔ allow maxRoom value = .ok () := by
  unfold checkText
  cases allow maxRoom value with
  | ok _ => exact iff_of_true rfl rfl
  | error fault => cases fault <;> exact iff_of_false nofun nofun

end Json

namespace Rule

/-- There is room for the stored conditions of the rule in a canonical text. -/
def IsWritable (rule : Rule) : Prop :=
  rule.storedConditions.allow (Json.maxRoom - 2) = .ok ()

instance (rule : Rule) : Decidable rule.IsWritable :=
  decidable_of_iff ((rule.storedConditions.allow (Json.maxRoom - 2)).toOption.isSome = true) <| by
    unfold IsWritable
    cases rule.storedConditions.allow (Json.maxRoom - 2) with
    | ok _ => exact iff_of_true rfl rfl
    | error fault => exact iff_of_false nofun nofun

/-- What is said about a rule takes room for one object more than its conditions. -/
theorem allow_versioned {rule : Rule} {tier : Tier} :
    (rule.versioned tier).allow (Json.maxRoom - 1) = .ok () ↔ rule.IsWritable := by
  have htext (text : String) (room : Nat) : (Json.string text).allow room = .ok () := by
    simp [Json.allow]
  unfold versioned
  rw [Json.allow, if_neg (by decide), Json.allowFields_ok_iff]
  simp only [List.forall_mem_cons, List.not_mem_nil, false_implies, implies_true, and_true,
    htext, true_and]
  exact Iff.rfl

/-- The conditions of a rule for which there is room are not too deep in one another. -/
theorem IsWritable.nesting_le {rule : Rule} (hwritable : rule.IsWritable) :
    rule.nesting ≤ StoredCondition.maxNesting := by
  unfold IsWritable storedConditions at hwritable
  rw [Json.allow, if_neg (by decide), Condition.allToStored_eq] at hwritable
  have hnesting := Condition.nestingOfAll_of_allow _ (Json.allowItems_ok_iff.mp hwritable)
  have hroom : Json.maxRoom - 2 - 1 + 1 ≤ 2 * StoredCondition.maxNesting := by decide
  unfold nesting
  omega

variable {rules : List (Tier × Rule)}

/-- The canonical text of rules can be made just if there is room for each of them. -/
theorem checkCanonical_ok_iff :
    checkCanonical rules = .ok () ↔ ∀ item ∈ rules, item.2.IsWritable := by
  have htext : (canonical rules).checkText = .ok () ↔ ∀ item ∈ rules, item.2.IsWritable := by
    unfold canonical
    rw [Json.checkText_ok_iff, Json.allow_sortKeys, Json.allow, if_neg (by decide),
      Json.allowItems_ok_iff, List.forall_mem_map]
    simp only [(sortBy_perm _ _).mem_iff, allow_versioned]
  unfold checkCanonical
  split
  · rename_i hdeep
    obtain ⟨item, hmem, hitem⟩ := List.any_eq_true.mp hdeep
    refine iff_of_false nofun fun hall => ?_
    exact absurd (hall item hmem).nesting_le (Nat.not_le.mpr (of_decide_eq_true hitem))
  · exact htext

/-- Rules have a version just if there is room for each of them. -/
theorem isResult_versionOf :
    IsResult (versionOf rules) ↔ ∀ item ∈ rules, item.2.IsWritable := by
  rw [← checkCanonical_ok_iff]
  cases rules with
  | nil => exact iff_of_true (isResult_ok _) (checkCanonical_ok_iff.mpr nofun)
  | cons item rest =>
      unfold versionOf
      rw [List.isEmpty_cons, if_neg Bool.false_ne_true]
      cases checkCanonical (item :: rest) with
      | ok _ => exact iff_of_true (isResult_ok _) rfl
      | error failure => exact iff_of_false (not_isResult_error _) nofun

/-- What is in the way of a canonical text is in the way of a version. -/
theorem versionOf_of_error {failure : Failure} (hcheck : checkCanonical rules = .error failure) :
    versionOf rules = .error failure := by
  cases rules with
  | nil =>
      have hnone : checkCanonical [] = .ok () := checkCanonical_ok_iff.mpr nofun
      rw [hnone] at hcheck
      cases hcheck
  | cons item rest =>
      unfold versionOf
      rw [hcheck]
      rfl

theorem versionOf_nil : versionOf [] = .ok emptyVersion :=
  rfl

/-- The version of rules is the digest of their canonical text, if there are rules. -/
theorem versionOf_ok {version : String} (hrules : rules ≠ [])
    (hversion : versionOf rules = .ok version) : version = digest (canonicalText rules) := by
  cases rules with
  | nil => exact absurd rfl hrules
  | cons item rest =>
      unfold versionOf at hversion
      rw [List.isEmpty_cons, if_neg Bool.false_ne_true] at hversion
      obtain ⟨-, -, rfl⟩ := map_ok hversion
      rfl

theorem versionOf_of_writable (hrules : rules ≠ []) (hall : ∀ item ∈ rules, item.2.IsWritable) :
    versionOf rules = .ok (digest (canonicalText rules)) := by
  obtain ⟨version, hversion⟩ := isResult_versionOf.mpr hall
  rw [hversion, versionOf_ok hrules hversion]

end Rule

end SkillTiers
