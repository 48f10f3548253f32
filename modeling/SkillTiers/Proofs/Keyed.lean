/-
# Lists of items with keys

Where each key occurs once, what is found under a key does not depend on the order
of the list. A function that can fail is applied to a list with the same results in any
order or fails in any order, and if it can fail in one way only the outcome is the same.
A function that cannot tell the items of two lists apart is applied to both with the
same outcome, and a search through them ends alike.
-/

import SkillTiers.Failure
import Mathlib.Data.List.Nodup
import Mathlib.Data.List.Perm.Basic

namespace SkillTiers

section Keyed

variable {Item Key : Type} [BEq Key]

/-- Where keys are not repeated, reordering does not change what is found. -/
theorem find?_key_perm [LawfulBEq Key] (key : Item → Key) {first second : List Item}
    (hperm : first.Perm second) (hkeys : (first.map key).Nodup) (wanted : Key) :
    first.find? (fun item => key item == wanted) =
      second.find? (fun item => key item == wanted) := by
  induction hperm with
  | nil => rfl
  | cons item _ ih =>
      rw [List.map_cons, List.nodup_cons] at hkeys
      rw [List.find?_cons, List.find?_cons, ih hkeys.2]
  | swap item other rest =>
      rw [List.map_cons, List.map_cons, List.nodup_cons] at hkeys
      have hdiffer : key other ≠ key item := by
        intro h
        exact hkeys.1 (h ▸ List.mem_cons_self)
      by_cases hitem : key item = wanted
      · have hother : (key other == wanted) = false :=
          beq_eq_false_iff_ne.mpr (hitem ▸ hdiffer)
        simp [hitem, hother]
      · have hmissed : (key item == wanted) = false := beq_eq_false_iff_ne.mpr hitem
        simp [List.find?_cons, hmissed]
  | trans hfirst _ ih ih' =>
      rw [ih hkeys, ih' ((hfirst.map key).nodup_iff.mp hkeys)]

/-- Where keys are not repeated, the items are those that are found under their keys. -/
theorem mem_iff_find?_key [LawfulBEq Key] (key : Item → Key) {items : List Item}
    (hkeys : (items.map key).Nodup) {item : Item} :
    item ∈ items ↔ items.find? (fun other => key other == key item) = some item := by
  refine ⟨fun hmem => ?_, List.mem_of_find?_eq_some⟩
  cases hfound : items.find? fun other => key other == key item with
  | none => exact absurd (beq_self_eq_true _) (List.find?_eq_none.mp hfound item hmem)
  | some other =>
      have hother := List.mem_of_find?_eq_some hfound
      have hkey : key other = key item :=
        beq_iff_eq.mp (List.find?_some (p := fun other => key other == key item) hfound)
      exact congrArg some (List.inj_on_of_nodup_map hkeys hother hmem hkey)

/-- What is found under a key in a mapped list that keeps the keys. -/
theorem find?_key_map {Image : Type} (key : Item → Key) (key' : Image → Key)
    (image : Item → Image) (hkeys : ∀ item, key' (image item) = key item)
    (items : List Item) (wanted : Key) :
    (items.map image).find? (fun item => key' item == wanted) =
      (items.find? (fun item => key item == wanted)).map image := by
  rw [List.find?_map]
  congr 1
  congr 1
  funext item
  exact congrArg (· == wanted) (hkeys item)

end Keyed

section Outcomes

variable {Item Result : Type}

/-- An outcome that gives a result is that result. -/
theorem ok_of_toOption {outcome : Outcome Result} {result : Result}
    (hresult : outcome.toOption = some result) : outcome = .ok result := by
  cases outcome with
  | error failure => cases hresult
  | ok other => exact congrArg Except.ok (Option.some.inj hresult)

/-- The outcome is a result or one of these failures. -/
def FailsWithin (allowed : Failure → Prop) (outcome : Outcome Result) : Prop :=
  ∀ failure, outcome = .error failure → allowed failure

theorem failsWithin_ok (allowed : Failure → Prop) (result : Result) :
    FailsWithin allowed (.ok result) := by
  intro failure h
  cases h

theorem failsWithin_error {allowed : Failure → Prop} {failure : Failure}
    (hfailure : allowed failure) : FailsWithin allowed (.error failure : Outcome Result) := by
  intro other h
  cases h
  exact hfailure

theorem FailsWithin.bind {allowed : Failure → Prop} {outcome : Outcome Item}
    {next : Item → Outcome Result} (houtcome : FailsWithin allowed outcome)
    (hnext : ∀ result, FailsWithin allowed (next result)) :
    FailsWithin allowed (outcome >>= next) := by
  cases outcome with
  | error failure =>
      intro other h
      exact Except.error.inj h ▸ houtcome failure rfl
  | ok result => exact hnext result

theorem failsWithin_mapM {allowed : Failure → Prop} {action : Item → Outcome Result}
    (haction : ∀ item, FailsWithin allowed (action item)) (items : List Item) :
    FailsWithin allowed (items.mapM action) := by
  induction items with
  | nil => exact failsWithin_ok allowed []
  | cons item rest ih =>
      rw [List.mapM_cons]
      exact (haction item).bind fun result =>
        ih.bind fun results => failsWithin_ok allowed (result :: results)

/-- The outcome is a result or this failure. -/
def FailsOnlyWith (failure : Failure) (outcome : Outcome Result) : Prop :=
  ∀ other, outcome = .error other → other = failure

theorem failsOnlyWith_ok (failure : Failure) (result : Result) :
    FailsOnlyWith failure (.ok result) :=
  failsWithin_ok (· = failure) result

theorem FailsOnlyWith.bind {failure : Failure} {outcome : Outcome Item}
    {next : Item → Outcome Result} (houtcome : FailsOnlyWith failure outcome)
    (hnext : ∀ result, FailsOnlyWith failure (next result)) :
    FailsOnlyWith failure (outcome >>= next) :=
  FailsWithin.bind houtcome hnext

theorem failsOnlyWith_mapM {failure : Failure} {action : Item → Outcome Result}
    (haction : ∀ item, FailsOnlyWith failure (action item)) (items : List Item) :
    FailsOnlyWith failure (items.mapM action) :=
  failsWithin_mapM haction items

/-- Results that are changed one by one. -/
theorem mapM_map_results {Image : Type} (action : Item → Outcome Result)
    (change : Result → Image) (items : List Item) :
    (items.mapM action).map (List.map change) =
      items.mapM fun item => (action item).map change := by
  induction items with
  | nil => rfl
  | cons item rest ih =>
      rw [List.mapM_cons, List.mapM_cons, ← ih]
      cases action item with
      | error fault => rfl
      | ok result =>
          cases rest.mapM action with
          | error fault => rfl
          | ok results => rfl

/-- Each result is that of its item. -/
theorem forall₂_of_mapM {action : Item → Outcome Result} {items : List Item}
    {results : List Result} (hresults : items.mapM action = .ok results) :
    List.Forall₂ (fun item result => action item = .ok result) items results := by
  induction items generalizing results with
  | nil =>
      cases hresults
      exact .nil
  | cons item rest ih =>
      rw [List.mapM_cons] at hresults
      cases hitem : action item with
      | error failure =>
          rw [hitem] at hresults
          cases hresults
      | ok result =>
          cases hrest : rest.mapM action with
          | error failure =>
              rw [hitem, hrest] at hresults
              cases hresults
          | ok others =>
              rw [hitem, hrest] at hresults
              cases hresults
              exact .cons hitem (ih hrest)

/-- A list has these results if and only if its items have them, one by one. -/
theorem mapM_eq_ok {action : Item → Outcome Result} {items : List Item}
    {results : List Result} : items.mapM action = .ok results ↔
      List.Forall₂ (fun item result => action item = .ok result) items results := by
  constructor
  · exact forall₂_of_mapM
  · intro heach
    induction heach with
    | nil => rfl
    | cons hitem _ ih =>
        rw [List.mapM_cons, hitem, ih]
        rfl

/-- Results that are wrapped one by one and put together again. -/
theorem mapM_singletons (action : Item → Outcome Result) (items : List Item) :
    (items.mapM fun item => (action item).map fun result => [result]).map List.flatten =
      items.mapM action := by
  have hflatten (results : List Result) :
      (results.map fun result => [result]).flatten = results := by
    rw [← List.flatMap_def, List.flatMap_singleton']
  rw [← mapM_map_results]
  cases items.mapM action with
  | error failure => rfl
  | ok results => exact congrArg Except.ok (hflatten results)

/-- Where each item has a result that holds for it or fails in its own way, a list has such
results or fails as one of its items does. -/
theorem mapM_cases {action : Item → Outcome Result} {holds : Item → Result → Prop}
    {fails : Item → Failure → Prop} {items : List Item}
    (hitems : ∀ item ∈ items, (∃ result, action item = .ok result ∧ holds item result) ∨
      ∃ failure, action item = .error failure ∧ fails item failure) :
    (∃ results, items.mapM action = .ok results ∧ List.Forall₂ holds items results) ∨
      ∃ failure, items.mapM action = .error failure ∧ ∃ item ∈ items, fails item failure := by
  induction items with
  | nil => exact .inl ⟨[], rfl, .nil⟩
  | cons item rest ih =>
      obtain ⟨hitem, hrest⟩ := List.forall_mem_cons.mp hitems
      rw [List.mapM_cons]
      rcases hitem with ⟨result, hresult, hholds⟩ | ⟨failure, hfailure, hfails⟩
      · rcases ih hrest with ⟨results, hresults, heach⟩ | ⟨failure, hfailure, other, hother, hfails⟩
        · rw [hresult, hresults]
          exact .inl ⟨result :: results, rfl, .cons hholds heach⟩
        · rw [hresult, hfailure]
          exact .inr ⟨failure, rfl, other, List.mem_cons_of_mem _ hother, hfails⟩
      · rw [hfailure]
        exact .inr ⟨failure, rfl, item, List.mem_cons_self, hfails⟩

/-- Results that keep the keys of their items come in the order of these keys. -/
theorem mapM_keys {Key : Type} {action : Item → Outcome Result} (key : Item → Key)
    (key' : Result → Key) (hkeys : ∀ item result, action item = .ok result →
      key' result = key item)
    {items : List Item} {results : List Result} (hresults : items.mapM action = .ok results) :
    results.map key' = items.map key := by
  have heach := forall₂_of_mapM hresults
  clear hresults
  induction heach with
  | nil => rfl
  | cons hitem _ ih => rw [List.map_cons, List.map_cons, hkeys _ _ hitem, ih]

/-- Lists that belong together through a third one belong together. -/
theorem forall₂_comp {Image : Type} {first : Item → Result → Prop}
    {second : Result → Image → Prop} {both : Item → Image → Prop}
    (hboth : ∀ item result image, first item result → second result image → both item image)
    {items : List Item} {results : List Result} {images : List Image}
    (hfirst : List.Forall₂ first items results) (hsecond : List.Forall₂ second results images) :
    List.Forall₂ both items images := by
  induction hfirst generalizing images with
  | nil =>
      cases hsecond
      exact .nil
  | cons hitem _ ih =>
      cases hsecond with
      | cons hresult hrest => exact .cons (hboth _ _ _ hitem hresult) (ih hrest)

/-- Of two lists that belong together, each item of the second belongs to one of the
first. -/
theorem exists_of_mem_forall₂ {related : Item → Result → Prop} {items : List Item}
    {results : List Result} (heach : List.Forall₂ related items results) {result : Result}
    (hmem : result ∈ results) : ∃ item ∈ items, related item result := by
  induction heach with
  | nil => cases hmem
  | @cons item first _ _ hitem _ ih =>
      rcases List.mem_cons.mp hmem with rfl | hlater
      · exact ⟨item, List.mem_cons_self, hitem⟩
      · obtain ⟨other, hother, hrelated⟩ := ih hlater
        exact ⟨other, List.mem_cons_of_mem _ hother, hrelated⟩

/-- In two lists that belong together, item by item, what is found first belongs
together. -/
theorem find?_forall₂ {related : Item → Result → Prop} {wanted : Item → Bool}
    {wanted' : Result → Bool}
    (hwanted : ∀ item result, related item result → wanted item = wanted' result)
    {items : List Item} {results : List Result} (heach : List.Forall₂ related items results) :
    (∃ item result, items.find? wanted = some item ∧ results.find? wanted' = some result ∧
        related item result) ∨
      (items.find? wanted = none ∧ results.find? wanted' = none) := by
  induction heach with
  | nil => exact .inr ⟨rfl, rfl⟩
  | @cons item result _ _ hitem _ ih =>
      have hsame := hwanted item result hitem
      rw [List.find?_cons, List.find?_cons, ← hsame]
      cases wanted item with
      | true => exact .inl ⟨item, result, rfl, rfl, hitem⟩
      | false => exact ih

/-- Items that the function cannot tell apart, one by one, have one outcome. -/
theorem mapM_forall₂ {related : Item → Item → Prop} {action : Item → Outcome Result}
    (hsame : ∀ item other, related item other → action item = action other)
    {first second : List Item} (hrelated : List.Forall₂ related first second) :
    first.mapM action = second.mapM action := by
  induction hrelated with
  | nil => rfl
  | cons hitem _ ih => rw [List.mapM_cons, List.mapM_cons, hsame _ _ hitem, ih]

/-- Lists that belong together, item by item, have results that do, if their items have. -/
theorem mapM_both {Other Image : Type} {related : Item → Other → Prop}
    {holds : Result → Image → Prop} {action : Item → Outcome Result}
    {action' : Other → Outcome Image} {items : List Item} {others : List Other}
    (heach : List.Forall₂ related items others)
    (hboth : ∀ item other, related item other → ∃ result image, action item = .ok result ∧
      action' other = .ok image ∧ holds result image) :
    ∃ results images, items.mapM action = .ok results ∧ others.mapM action' = .ok images ∧
      List.Forall₂ holds results images := by
  induction heach with
  | nil => exact ⟨[], [], rfl, rfl, .nil⟩
  | cons hitem _ ih =>
      obtain ⟨result, image, hresult, himage, hholds⟩ := hboth _ _ hitem
      obtain ⟨results, images, hresults, himages, hrest⟩ := ih
      rw [List.mapM_cons, List.mapM_cons, hresult, himage, hresults, himages]
      exact ⟨result :: results, image :: images, rfl, rfl, .cons hholds hrest⟩

/-- Where tests cannot tell the items of two lists apart, both lists pass as a whole or
neither does. -/
theorem allM_forall₂ {Other : Type} {test : Item → Outcome Bool} {test' : Other → Outcome Bool}
    {items : List Item} {others : List Other}
    (heach : List.Forall₂ (fun item other => test item = test' other) items others) :
    items.allM test = others.allM test' := by
  induction heach with
  | nil => rfl
  | cons hitem _ ih => rw [List.allM, List.allM, hitem, ih]

/-- So there is an item that passes in both or in neither. -/
theorem anyM_forall₂ {Other : Type} {test : Item → Outcome Bool} {test' : Other → Outcome Bool}
    {items : List Item} {others : List Other}
    (heach : List.Forall₂ (fun item other => test item = test' other) items others) :
    items.anyM test = others.anyM test' := by
  induction heach with
  | nil => rfl
  | cons hitem _ ih => rw [List.anyM, List.anyM, hitem, ih]

/-- Both outcomes are failures, or both are results and these are alike. -/
inductive OutcomesAlike (alike : Result → Result → Prop) :
    Outcome Result → Outcome Result → Prop where
  | ok {first second : Result} (halike : alike first second) :
      OutcomesAlike alike (.ok first) (.ok second)
  | error (first second : Failure) : OutcomesAlike alike (.error first) (.error second)

namespace OutcomesAlike

theorem trans {alike : Result → Result → Prop}
    {first second third : Outcome Result} (hfirst : OutcomesAlike alike first second)
    (hsecond : OutcomesAlike alike second third)
    (htrans : ∀ first second third, alike first second → alike second third → alike first third) :
    OutcomesAlike alike first third := by
  cases hfirst with
  | ok halike =>
      cases hsecond with
      | ok halike' => exact .ok (htrans _ _ _ halike halike')
  | error failure =>
      cases hsecond
      exact .error _ _

theorem map {alike : Result → Result → Prop} {Image : Type} {alike' : Image → Image → Prop}
    {make : Result → Image} {first second : Outcome Result}
    (houtcomes : OutcomesAlike alike first second)
    (hmake : ∀ first second, alike first second → alike' (make first) (make second)) :
    OutcomesAlike alike' (first.map make) (second.map make) := by
  cases houtcomes with
  | ok halike => exact .ok (hmake _ _ halike)
  | error failure other => exact .error failure other

/-- Results that are put in front of others. -/
theorem cons {alike : Result → Result → Prop} {first second : Outcome Result}
    {firsts seconds : Outcome (List Result)} (hhead : OutcomesAlike alike first second)
    (htail : OutcomesAlike (List.Forall₂ alike) firsts seconds) :
    OutcomesAlike (List.Forall₂ alike) (do return (← first) :: (← firsts))
      (do return (← second) :: (← seconds)) := by
  cases hhead with
  | error failure other => exact .error failure other
  | ok halike =>
      cases htail with
      | error failure other => exact .error failure other
      | ok hrest => exact .ok (.cons halike hrest)

/-- Lists that are worked out item by item are alike if the items are. -/
theorem mapM {alike : Result → Result → Prop} {action action' : Item → Outcome Result}
    (hitem : ∀ item, OutcomesAlike alike (action item) (action' item)) (items : List Item) :
    OutcomesAlike (List.Forall₂ alike) (items.mapM action) (items.mapM action') := by
  induction items with
  | nil => exact .ok .nil
  | cons item rest ih =>
      rw [List.mapM_cons, List.mapM_cons]
      exact (hitem item).cons ih

/-- A list that is worked out in another order has the same results in another order. -/
theorem mapM_perm (action : Item → Outcome Result) {items others : List Item}
    (hperm : items.Perm others) :
    OutcomesAlike List.Perm (items.mapM action) (others.mapM action) := by
  induction hperm with
  | nil => exact .ok .nil
  | cons item _ ih =>
      rw [List.mapM_cons, List.mapM_cons]
      cases action item with
      | error failure => exact .error failure failure
      | ok result => exact ih.map fun _ _ => List.Perm.cons result
  | swap item other rest =>
      simp only [List.mapM_cons]
      cases action item with
      | error failure =>
          cases action other with
          | error failure' => exact .error failure' failure
          | ok result' => exact .error failure failure
      | ok result =>
          cases action other with
          | error failure' => exact .error failure' failure'
          | ok result' =>
              cases rest.mapM action with
              | error failure => exact .error failure failure
              | ok results => exact .ok (.swap result result' results)
  | trans _ _ ih ih' => exact ih.trans ih' fun _ _ _ => List.Perm.trans

end OutcomesAlike

/-- The outcomes of a list in two orders: both fail alike, or both succeed with the
results in the two orders. -/
def AlikeInOrder (first second : Outcome (List Result)) : Prop :=
  (∃ results results', first = .ok results ∧ second = .ok results' ∧ results.Perm results') ∨
    ∃ failure, first = .error failure ∧ second = .error failure

theorem AlikeInOrder.trans {first second third : Outcome (List Result)}
    (hfirst : AlikeInOrder first second) (hsecond : AlikeInOrder second third) :
    AlikeInOrder first third := by
  rcases hfirst with ⟨results, results', rfl, rfl, hresults⟩ | ⟨failure, rfl, rfl⟩
  · rcases hsecond with ⟨others, others', hothers, rfl, hperm⟩ | ⟨failure, hothers, rfl⟩
    · cases hothers
      exact .inl ⟨results, others', rfl, rfl, hresults.trans hperm⟩
    · cases hothers
  · rcases hsecond with ⟨others, others', hothers, rfl, hperm⟩ | ⟨failure', hothers, rfl⟩
    · cases hothers
    · cases hothers
      exact .inr ⟨failure, rfl, rfl⟩

/-- Nor does what both go on to check tell them apart. -/
theorem AlikeInOrder.andCheck {Checked : Type} {first second : Outcome (List Result)}
    (halike : AlikeInOrder first second) (check : Outcome Checked) :
    AlikeInOrder (do let results ← first; let _ ← check; return results)
      (do let results ← second; let _ ← check; return results) := by
  rcases halike with ⟨results, results', rfl, rfl, hperm⟩ | ⟨failure, rfl, rfl⟩
  · cases check with
    | ok _ => exact .inl ⟨results, results', rfl, rfl, hperm⟩
    | error failure => exact .inr ⟨failure, rfl, rfl⟩
  · exact .inr ⟨failure, rfl, rfl⟩

/-- Outcomes whose lists are alike in order are both results or one failure. -/
theorem AlikeInOrder.cases_map {Image : Type} {items : Item → List Image}
    {first second : Outcome Item}
    (halike : AlikeInOrder (first.map items) (second.map items)) :
    (∃ item item', first = .ok item ∧ second = .ok item' ∧ (items item).Perm (items item')) ∨
      ∃ failure, first = .error failure ∧ second = .error failure := by
  rcases halike with ⟨results, results', h, h', hperm⟩ | ⟨failure, h, h'⟩
  · cases first with
    | error failure => cases h
    | ok item =>
        cases second with
        | error failure => cases h'
        | ok item' =>
            cases h
            cases h'
            exact .inl ⟨item, item', rfl, rfl, hperm⟩
  · cases first with
    | ok item => cases h
    | error failure =>
        cases second with
        | ok item => cases h'
        | error failure' =>
            cases h
            cases h'
            exact .inr ⟨failure, rfl, rfl⟩

/-- A function that fails in one way only is applied alike in any order. -/
theorem mapM_perm {action : Item → Outcome Result} {failure : Failure}
    (honly : ∀ item, FailsOnlyWith failure (action item))
    {first second : List Item} (hperm : first.Perm second) :
    AlikeInOrder (first.mapM action) (second.mapM action) := by
  have hfirst := failsOnlyWith_mapM honly first
  have hsecond := failsOnlyWith_mapM honly second
  have halike := OutcomesAlike.mapM_perm action hperm
  generalize first.mapM action = outcome at hfirst halike ⊢
  generalize second.mapM action = outcome' at hsecond halike ⊢
  cases halike with
  | ok hresults => exact .inl ⟨_, _, rfl, rfl, hresults⟩
  | error fault fault' =>
      rw [hfirst fault rfl, hsecond fault' rfl]
      exact .inr ⟨failure, rfl, rfl⟩

end Outcomes

end SkillTiers
