/-
# Values up to the order of keys

Two values are alike when sorting the keys of all their objects makes them equal.
In objects that repeat no key, what stands under a key is then alike too
(`lookup_alike`), so a reader that looks values up by key cannot tell alike values
from each other.
-/

import SkillTiers.Json.Basic
import SkillTiers.Proofs.Keyed
import SkillTiers.Proofs.Sorting

namespace SkillTiers

namespace Json

/-- The values differ in the order of keys at most. -/
def Alike (first second : Json) : Prop :=
  first.sortKeys = second.sortKeys

/-- The keys of fields, in order. -/
def keys (fields : List (String × Json)) : List String :=
  fields.map (·.1)

@[simp] theorem lookup_nil (key : String) : lookup [] key = none :=
  rfl

@[simp] theorem lookup_cons_self (key : String) (value : Json) (rest : List (String × Json)) :
    lookup ((key, value) :: rest) key = some value := by
  simp [lookup]

theorem lookup_cons_of_ne {key other : String} (hne : other ≠ key) (value : Json)
    (rest : List (String × Json)) : lookup ((other, value) :: rest) key = lookup rest key := by
  simp [lookup, hne]

/-- A key that is in front counts before what follows. -/
theorem lookup_append (front back : List (String × Json)) (key : String) :
    lookup (front ++ back) key = (lookup front key).or (lookup back key) := by
  unfold lookup
  rw [List.find?_append]
  cases front.find? (·.1 == key) with
  | none => rfl
  | some field => rfl

/-- Sorting the keys of each value is a map. -/
theorem sortItems_eq_map (items : List Json) : sortItems items = items.map sortKeys := by
  induction items with
  | nil => rw [sortItems, List.map_nil]
  | cons item rest ih => rw [sortItems, ih, List.map_cons]

theorem sortFields_eq_map (fields : List (String × Json)) :
    sortFields fields = fields.map fun field => (field.1, sortKeys field.2) := by
  induction fields with
  | nil => rw [sortFields, List.map_nil]
  | cons field rest ih =>
      obtain ⟨key, value⟩ := field
      rw [sortFields, ih, List.map_cons]

/-- Under a key of an object with sorted keys stands what stood there, sorted. -/
theorem lookup_sorted {fields sorted : List (String × Json)} (hkeys : (keys fields).Nodup)
    (hsorted : sortKeys (.object fields) = .object sorted) (key : String) :
    lookup sorted key = (lookup fields key).map sortKeys := by
  rw [sortKeys] at hsorted
  have hperm : sorted.Perm (sortFields fields) := by
    rw [← Json.object.inj hsorted]
    exact sortBy_perm _ _
  have hsame : keys (sortFields fields) = keys fields := by
    unfold keys
    rw [sortFields_eq_map, List.map_map]
    rfl
  have hnodup : (keys sorted).Nodup := by
    rw [← hsame] at hkeys
    exact (hperm.map Prod.fst).nodup_iff.mpr hkeys
  have hfind := find?_key_map Prod.fst Prod.fst
    (fun field : String × Json => (field.1, sortKeys field.2)) (fun _ => rfl) fields key
  unfold lookup
  rw [find?_key_perm Prod.fst hperm hnodup key, sortFields_eq_map, hfind]
  cases fields.find? (·.1 == key) with
  | none => rfl
  | some field => rfl

/-- Under each key of alike objects stand alike values, or nothing in both. -/
theorem lookup_alike {first second : List (String × Json)}
    (halike : Alike (.object first) (.object second)) (hfirst : (keys first).Nodup)
    (hsecond : (keys second).Nodup) (key : String) :
    (lookup first key).map sortKeys = (lookup second key).map sortKeys := by
  have hsorted : ∃ sorted, sortKeys (.object first) = .object sorted := by
    rw [sortKeys]
    exact ⟨_, rfl⟩
  obtain ⟨sorted, hfields⟩ := hsorted
  rw [← lookup_sorted hfirst hfields key]
  unfold Alike at halike
  rw [halike] at hfields
  rw [← lookup_sorted hsecond hfields key]

/-- The items of alike arrays are alike, one by one. -/
theorem items_alike {first second : List Json} (halike : Alike (.array first) (.array second)) :
    List.Forall₂ Alike first second := by
  unfold Alike at halike
  rw [sortKeys, sortKeys, sortItems_eq_map, sortItems_eq_map] at halike
  have hmaps := Json.array.inj halike
  clear halike
  induction first generalizing second with
  | nil =>
      cases second with
      | nil => exact .nil
      | cons item rest => cases hmaps
  | cons item rest ih =>
      cases second with
      | nil => cases hmaps
      | cons item' rest' =>
          rw [List.map_cons, List.map_cons] at hmaps
          exact .cons (List.cons.inj hmaps).1 (ih (List.cons.inj hmaps).2)

/-- Alike texts are one text. -/
theorem string_of_alike {first second : String}
    (halike : Alike (.string first) (.string second)) : first = second := by
  unfold Alike at halike
  rw [sortKeys.eq_def, sortKeys.eq_def] at halike
  exact Json.string.inj halike

end Json

end SkillTiers
