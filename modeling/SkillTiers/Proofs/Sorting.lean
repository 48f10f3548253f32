/-
# Sorting by insertion

Sorting by insertion has all items, in an order in which they may come, and keeps the order
of items that may stand in either. It comes to what merging comes to (`sortBy_eq_mergeSort`),
of which all else is known.
-/

import SkillTiers.Sorting
import Mathlib.Data.List.Perm.Basic

namespace SkillTiers

variable {Item : Type} {upTo : Item → Item → Bool}

theorem insertBy_perm (upTo : Item → Item → Bool) (item : Item) (items : List Item) :
    (insertBy upTo item items).Perm (item :: items) := by
  induction items with
  | nil => exact .refl _
  | cons next rest ih =>
      rw [insertBy]
      split
      · exact .refl _
      · exact (ih.cons next).trans (.swap item next rest)

/-- No item is lost, and none comes in. -/
theorem sortBy_perm (upTo : Item → Item → Bool) (items : List Item) :
    (sortBy upTo items).Perm items := by
  induction items with
  | nil => exact .nil
  | cons item rest ih => exact (insertBy_perm upTo item _).trans (ih.cons item)

/-- An item is put behind those that it may not come before. -/
theorem insertBy_append {item : Item} {front back : List Item}
    (hfront : ∀ other ∈ front, upTo item other = false)
    (hback : ∀ other ∈ back, upTo item other = true) :
    insertBy upTo item (front ++ back) = front ++ item :: back := by
  induction front with
  | nil =>
      cases back with
      | nil => rfl
      | cons next rest =>
          rw [List.nil_append, List.nil_append, insertBy, if_pos (hback next List.mem_cons_self)]
  | cons next rest ih =>
      obtain ⟨hnext, hrest⟩ := List.forall_mem_cons.mp hfront
      rw [List.cons_append, List.cons_append, insertBy, hnext, if_neg Bool.false_ne_true,
        ih hrest]

section Total

variable (htrans : ∀ first second third, upTo first second = true → upTo second third = true →
    upTo first third = true)
  (htotal : ∀ first second, (upTo first second || upTo second first) = true)

include htrans htotal

/-- Inserting comes to what merging comes to. -/
theorem sortBy_eq_mergeSort (items : List Item) : sortBy upTo items = items.mergeSort upTo := by
  induction items with
  | nil => rw [sortBy, List.mergeSort_nil]
  | cons item rest ih =>
      obtain ⟨front, back, hsorted, hrest, hfront⟩ :=
        List.mergeSort_cons htrans htotal item rest
      have hordered := List.pairwise_mergeSort htrans htotal (item :: rest)
      rw [hsorted, List.pairwise_append] at hordered
      rw [sortBy, ih, hsorted, hrest]
      refine insertBy_append (fun other hmem => ?_) (List.pairwise_cons.mp hordered.2.1).1
      exact Bool.eq_false_iff.mpr (by simpa using hfront other hmem)

end Total

section Keys

variable (key : Item → String)

private theorem key_trans (first second third : Item)
    (hfirst : decide (key first ≤ key second) = true)
    (hsecond : decide (key second ≤ key third) = true) : decide (key first ≤ key third) = true :=
  decide_eq_true (String.le_trans (of_decide_eq_true hfirst) (of_decide_eq_true hsecond))

private theorem key_total (first second : Item) :
    (decide (key first ≤ key second) || decide (key second ≤ key first)) = true := by
  rw [Bool.or_eq_true, decide_eq_true_iff, decide_eq_true_iff]
  exact String.le_total _ _

/-- Items are sorted by keys that are texts. -/
theorem pairwise_sortBy_key (items : List Item) :
    (sortBy (fun first second => decide (key first ≤ key second)) items).Pairwise
      fun first second => key first ≤ key second := by
  rw [sortBy_eq_mergeSort (key_trans key) (key_total key)]
  exact (List.pairwise_mergeSort (key_trans key) (key_total key) items).imp of_decide_eq_true

/-- Items that are sorted by such keys stay as they are. -/
theorem sortBy_key_of_pairwise {items : List Item}
    (hsorted : items.Pairwise fun first second => key first ≤ key second) :
    sortBy (fun first second => decide (key first ≤ key second)) items = items := by
  rw [sortBy_eq_mergeSort (key_trans key) (key_total key)]
  exact List.mergeSort_of_pairwise (hsorted.imp fun hupTo => decide_eq_true hupTo)

end Keys

end SkillTiers
