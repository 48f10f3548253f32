/-
# Outcomes that are results

An outcome that is put together from others is a result where all of them are. Over a
list of items that holds exactly (`isResult_mapM`), since each item is worked out; a
search through a list may end before it comes to an item that fails.
-/

import SkillTiers.Failure

namespace SkillTiers

variable {Item Result Image : Type}

/-- The outcome is a result and no failure. -/
def IsResult (outcome : Outcome Result) : Prop :=
  ∃ result, outcome = .ok result

theorem isResult_ok (result : Result) : IsResult (.ok result) :=
  ⟨result, rfl⟩

theorem not_isResult_error (failure : Failure) : ¬ IsResult (.error failure : Outcome Result) := by
  rintro ⟨result, h⟩
  cases h

/-- An outcome is a result if it is one when its failure is forgotten. -/
theorem isResult_of_isSome {outcome : Outcome Result}
    (hsome : outcome.toOption.isSome = true) : IsResult outcome := by
  cases outcome with
  | ok result => exact isResult_ok result
  | error failure => cases hsome

theorem IsResult.bind {outcome : Outcome Item} {next : Item → Outcome Result}
    (houtcome : IsResult outcome) (hnext : ∀ item, outcome = .ok item → IsResult (next item)) :
    IsResult (outcome >>= next) := by
  obtain ⟨item, rfl⟩ := houtcome
  exact hnext item rfl

/-- A result that is made of another. -/
theorem map_ok {make : Item → Result} {outcome : Outcome Item} {result : Result}
    (hresult : (do return make (← outcome)) = (.ok result : Outcome Result)) :
    ∃ item, outcome = .ok item ∧ make item = result := by
  cases outcome with
  | error failure => cases hresult
  | ok item => exact ⟨item, rfl, Except.ok.inj hresult⟩

/-- A result that is made of two others. -/
theorem map₂_ok {make : Item → Image → Result} {first : Outcome Item} {second : Outcome Image}
    {result : Result}
    (hresult : (do return make (← first) (← second)) = (.ok result : Outcome Result)) :
    ∃ item image, first = .ok item ∧ second = .ok image ∧ make item image = result := by
  cases first with
  | error failure => cases hresult
  | ok item =>
      obtain ⟨image, himage, hmake⟩ := map_ok hresult
      exact ⟨item, image, rfl, himage, hmake⟩

/-- What is made of a result does not matter. -/
theorem isResult_map (make : Item → Result) (outcome : Outcome Item) :
    IsResult (do return make (← outcome)) ↔ IsResult outcome := by
  cases outcome with
  | error failure => exact iff_of_false (not_isResult_error _) (not_isResult_error _)
  | ok item => exact iff_of_true (isResult_ok _) (isResult_ok _)

/-- Two outcomes of which one thing is made. -/
theorem isResult_map₂ (make : Item → Image → Result) (first : Outcome Item)
    (second : Outcome Image) :
    IsResult (do return make (← first) (← second)) ↔ IsResult first ∧ IsResult second := by
  cases first with
  | error failure =>
      exact iff_of_false (not_isResult_error _) fun h => not_isResult_error _ h.1
  | ok item =>
      refine (isResult_map (make item) second).trans ?_
      exact ⟨fun h => ⟨isResult_ok item, h⟩, And.right⟩

/-- Three outcomes of which one thing is made. -/
theorem isResult_map₃ {Other : Type} (make : Item → Image → Other → Result)
    (first : Outcome Item) (second : Outcome Image) (third : Outcome Other) :
    IsResult (do return make (← first) (← second) (← third)) ↔
      IsResult first ∧ IsResult second ∧ IsResult third := by
  cases first with
  | error failure =>
      exact iff_of_false (not_isResult_error _) fun h => not_isResult_error _ h.1
  | ok item =>
      refine (isResult_map₂ (make item) second third).trans ?_
      exact ⟨fun h => ⟨isResult_ok item, h⟩, And.right⟩

/-- A list is worked out if and only if each of its items is. -/
theorem isResult_mapM {action : Item → Outcome Result} {items : List Item} :
    IsResult (items.mapM action) ↔ ∀ item ∈ items, IsResult (action item) := by
  induction items with
  | nil => exact iff_of_true (isResult_ok []) (by simp)
  | cons item rest ih =>
      rw [List.mapM_cons, isResult_map₂, ih, List.forall_mem_cons]

/-- Items are checked one after the other: if one of them does not pass, neither does the
list. -/
theorem forM_check {holds : Item → Prop} [DecidablePred holds] {check : Item → Outcome Unit}
    {failure : Failure}
    (hcheck : ∀ item, check item = if holds item then .ok () else .error failure)
    (items : List Item) :
    items.forM check = if ∀ item ∈ items, holds item then .ok () else .error failure := by
  induction items with
  | nil =>
      rw [if_pos nofun]
      rfl
  | cons item rest ih =>
      rw [List.forM, hcheck item, ih]
      by_cases hitem : holds item
      · simp only [List.forall_mem_cons, hitem, if_true, true_and]
        rfl
      · simp only [List.forall_mem_cons, hitem, if_false, false_and]
        rfl

/-- A list passes if and only if each of its items does, where all are worked out. -/
theorem allM_ok {test : Item → Outcome Bool} {items : List Item}
    (hitems : ∀ item ∈ items, IsResult (test item)) :
    ∃ passes, items.allM test = .ok passes ∧
      (passes = true ↔ ∀ item ∈ items, test item = .ok true) := by
  induction items with
  | nil => exact ⟨true, rfl, by simp⟩
  | cons item rest ih =>
      obtain ⟨⟨holds, hholds⟩, hrest⟩ := List.forall_mem_cons.mp hitems
      obtain ⟨passes, hpasses, hiff⟩ := ih hrest
      rw [List.allM, hholds]
      simp only [List.forall_mem_cons, hholds]
      cases holds with
      | true => exact ⟨passes, hpasses, by simp [hiff]⟩
      | false => exact ⟨false, rfl, by simp⟩

/-- Some item of a list passes if and only if the search for one finds it, where all are
worked out. -/
theorem anyM_ok {test : Item → Outcome Bool} {items : List Item}
    (hitems : ∀ item ∈ items, IsResult (test item)) :
    ∃ passes, items.anyM test = .ok passes ∧
      (passes = true ↔ ∃ item ∈ items, test item = .ok true) := by
  induction items with
  | nil => exact ⟨false, rfl, by simp⟩
  | cons item rest ih =>
      obtain ⟨⟨holds, hholds⟩, hrest⟩ := List.forall_mem_cons.mp hitems
      obtain ⟨passes, hpasses, hiff⟩ := ih hrest
      rw [List.anyM, hholds]
      simp only [List.mem_cons, exists_eq_or_imp, hholds]
      cases holds with
      | true => exact ⟨true, rfl, by simp⟩
      | false => exact ⟨passes, hpasses, by simp [hiff]⟩

/-- In a list that passes every item does: none is left out, and none fails. -/
theorem forall_of_allM {test : Item → Outcome Bool} {items : List Item}
    (hpasses : items.allM test = .ok true) : ∀ item ∈ items, test item = .ok true := by
  induction items with
  | nil => exact nofun
  | cons item rest ih =>
      rw [List.allM] at hpasses
      cases hitem : test item with
      | error failure =>
          rw [hitem] at hpasses
          cases hpasses
      | ok holds =>
          rw [hitem] at hpasses
          cases holds with
          | false => cases hpasses
          | true => exact List.forall_mem_cons.mpr ⟨hitem, ih hpasses⟩

/-- A search that finds an item has one that passes, whatever comes behind it. -/
theorem exists_of_anyM {test : Item → Outcome Bool} {items : List Item}
    (hpasses : items.anyM test = .ok true) : ∃ item ∈ items, test item = .ok true := by
  induction items with
  | nil => cases hpasses
  | cons item rest ih =>
      rw [List.anyM] at hpasses
      cases hitem : test item with
      | error failure =>
          rw [hitem] at hpasses
          cases hpasses
      | ok holds =>
          rw [hitem] at hpasses
          cases holds with
          | true => exact ⟨item, List.mem_cons_self, hitem⟩
          | false =>
              obtain ⟨found, hmem, hfound⟩ := ih hpasses
              exact ⟨found, List.mem_cons_of_mem _ hmem, hfound⟩

/-- A search for an item that does not hold has a result if each item has one. -/
theorem isResult_allM {test : Item → Outcome Bool} {items : List Item}
    (hitems : ∀ item ∈ items, IsResult (test item)) : IsResult (items.allM test) := by
  obtain ⟨passes, hpasses, -⟩ := allM_ok hitems
  exact ⟨passes, hpasses⟩

/-- A search for an item that holds has a result if each item has one. -/
theorem isResult_anyM {test : Item → Outcome Bool} {items : List Item}
    (hitems : ∀ item ∈ items, IsResult (test item)) : IsResult (items.anyM test) := by
  obtain ⟨passes, hpasses, -⟩ := anyM_ok hitems
  exact ⟨passes, hpasses⟩

end SkillTiers
