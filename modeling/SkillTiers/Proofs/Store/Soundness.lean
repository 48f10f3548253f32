/-
# Rows without issues

A row has no issues if it can be read as a rule that has none. Whether it has depends on
its level, its conditions and its mark that it is active alone. The checked rule that is
written into a row need not be the rule that is read from it, since empty texts are
dropped on the way; but they are no issues, and so a row with the text of a rule without
issues has none (`Row.hasNoIssues_of_text`).
-/

import SkillTiers.Proofs.Store.Changes

namespace SkillTiers

open Condition

/-- The level of a rule without issues is a tier. -/
theorem Rule.tier_of_noIssues {rule : Rule} (hissues : rule.issues = .ok []) :
    ∃ tier, rule.tier = .ok tier := by
  unfold Rule.tier Tier.ofLevel
  cases hname : Tier.ofName? rule.level with
  | some tier => exact ⟨tier, rfl⟩
  | none =>
      unfold Rule.issues at hissues
      rw [hname] at hissues
      cases hconditions : Condition.issues "conditions" rule.conditions with
      | error failure =>
          rw [hconditions] at hissues
          cases hissues
      | ok issues =>
          rw [hconditions] at hissues
          cases hissues

/-- Empty texts in conditions are no issues. -/
theorem Rule.issues_eq {first second : Rule} (hlevel : first.level = second.level)
    (hactive : first.isActive = second.isActive)
    (hconditions : first.conditions = second.conditions ∨
      first.conditions = allPared second.conditions) : first.issues = second.issues := by
  have hempty : first.conditions.isEmpty = second.conditions.isEmpty := by
    rcases hconditions with h | h
    · rw [h]
    · rw [h, allPared_eq_map, List.isEmpty_map]
  have hissues : Condition.issues "conditions" first.conditions =
      Condition.issues "conditions" second.conditions := by
    rcases hconditions with h | h
    · rw [h]
    · rw [h, issues_allPared]
  unfold Rule.issues
  rw [hlevel, hactive, hempty, hissues]

/-- A strict check accepts a rule without issues only. -/
theorem Rule.noIssues_of_check {rule : Rule} {issues : List Issue}
    (hcheck : rule.check true = .ok issues) : rule.issues = .ok [] := by
  unfold Rule.check at hcheck
  cases hissues : rule.issues with
  | error failure =>
      rw [hissues] at hcheck
      cases hcheck
  | ok found =>
      rw [hissues] at hcheck
      cases found with
      | nil => rfl
      | cons issue rest => cases hcheck

namespace Row

/-- The row can be read as a rule, and the rule has no issues. -/
def HasNoIssues (row : Row) : Prop :=
  ∃ stored, row.toRule = .ok stored ∧ stored.rule.issues = .ok []

theorem readConditions_congr {row other : Row} (hsame : other.conditions = row.conditions) :
    other.readConditions = row.readConditions := by
  unfold readConditions conditionsValue
  rw [hsame]

/-- A row has no issues if a rule with its level, its mark and its conditions has none,
be it with empty texts or without. -/
theorem hasNoIssues_of_rule {row : Row} {rule : Rule} {conditions : List Condition}
    (hlevel : row.level = rule.level) (hactive : row.isActive = rule.isActive)
    (hread : row.readConditions = .ok conditions)
    (hconditions : conditions = rule.conditions ∨ conditions = allPared rule.conditions)
    (hissues : rule.issues = .ok []) : row.HasNoIssues := by
  obtain ⟨tier, htier⟩ := Rule.tier_of_noIssues hissues
  refine ⟨row.saying tier conditions, toRule_ok_iff.mpr ⟨tier, conditions, ?_, hread, rfl⟩, ?_⟩
  · rw [hlevel]
    exact htier
  · rw [← hissues]
    exact Rule.issues_eq (Tier.ofLevel_ok htier).symm hactive hconditions

/-- What has no issues depends on level, conditions and mark alone. -/
theorem HasNoIssues.congr {row other : Row} (hrow : row.HasNoIssues)
    (hlevel : other.level = row.level) (hconditions : other.conditions = row.conditions)
    (hactive : other.isActive = row.isActive) : other.HasNoIssues := by
  obtain ⟨_, hrule, hissues⟩ := hrow
  obtain ⟨tier, conditions, htier, hread, rfl⟩ := toRule_ok_iff.mp hrule
  exact hasNoIssues_of_rule (hlevel.trans (Tier.ofLevel_ok htier)) hactive
    ((readConditions_congr hconditions).trans hread) (.inl rfl) hissues

/-- Conditions that fit are read back from a row with their text, without empty texts. -/
theorem hasNoIssues_of_text {row : Row} {rule : Rule} {depth : Nat}
    (hdepth : 2 * depth ≤ Json.maxRoom)
    (hfits : ∀ condition ∈ rule.conditions, Fits depth condition)
    (hlevel : row.level = rule.level) (hactive : row.isActive = rule.isActive)
    (htext : row.conditions = .string rule.storedConditions.text)
    (hissues : rule.issues = .ok []) : row.HasNoIssues :=
  hasNoIssues_of_rule hlevel hactive (readConditions_fits hdepth htext hfits) (.inr rfl) hissues

/-- A row that is inserted for a rule without issues has none. -/
theorem Inserts.hasNoIssues {actor : Option String} {rule : Rule} {row : Row} {depth : Nat}
    (hrow : Inserts actor rule row) (hdepth : 2 * depth ≤ Json.maxRoom)
    (hfits : ∀ condition ∈ rule.conditions, Fits depth condition)
    (hissues : rule.issues = .ok []) : row.HasNoIssues := by
  cases hrow with
  | mk instant htier hid =>
      exact hasNoIssues_of_text hdepth hfits (Tier.ofLevel_ok htier).symm rfl rfl hissues

/-- New places are no issues. -/
theorem Places.hasNoIssues {actor : Option String} {places : List (String × Int)}
    {rows placed : List Row} (hplaces : Places actor places rows placed)
    (hrows : ∀ row ∈ rows, row.HasNoIssues) : ∀ row ∈ placed, row.HasNoIssues :=
  hplaces.preserves (fun _ _ _ hrow => hrow.congr rfl rfl rfl) hrows

end Row

namespace Seed

/-- The rule for a tier has no issues, whatever its id. -/
theorem noIssues_rule (id : String) (tier : Tier) : (rule id tier).issues = .ok [] := by
  show (rule "" tier).issues = .ok []
  apply ok_of_toOption
  cases tier <;> decide +kernel

/-- The thresholds of the seed rules are whole numbers, and their sub-conditions have
none of their own. -/
theorem fits_conditions (tier : Tier) : ∀ condition ∈ conditions tier, Fits 2 condition := by
  have hplain {value : Json} (hok : (value.allow 0).isOk = true) : value.IsPlain := by
    unfold Json.IsPlain
    cases hallowed : value.allow 0 with
    | ok _ => rfl
    | error fault =>
        rw [hallowed] at hok
        cases hok
  have hall : (conditions tier).all (fun condition => (condition.value.allow 0).isOk &&
      condition.subConditions.all fun sub =>
        (sub.value.allow 0).isOk && sub.subConditions.isEmpty) = true := by
    cases tier <;> decide +kernel
  simp only [List.all_eq_true, Bool.and_eq_true, List.isEmpty_iff] at hall
  intro condition hmem
  obtain ⟨hvalue, hsubs⟩ := hall condition hmem
  refine .mk (hplain hvalue) fun sub hsub => ?_
  obtain ⟨hvalue', hnone⟩ := hsubs sub hsub
  exact .mk (hplain hvalue') (hnone ▸ nofun)

/-- The seed rules are those for the tiers. -/
theorem mem_rules {number : Nat} {seed : Rule} (hmem : seed ∈ rules number) :
    ∃ id tier, seed = rule id tier := by
  simp only [rules, List.mem_cons, List.not_mem_nil, or_false] at hmem
  rcases hmem with rfl | rfl | rfl
  · exact ⟨_, _, rfl⟩
  · exact ⟨_, _, rfl⟩
  · exact ⟨_, _, rfl⟩

/-- The rows of the seed rules have no issues. -/
theorem hasNoIssues_of_mem {actor : Option String} {number : Nat} {rows : List Row}
    (hseeded : List.Forall₂ (Row.Inserts actor) (rules number) rows) :
    ∀ row ∈ rows, row.HasNoIssues := by
  intro row hmem
  obtain ⟨seed, hseed, hrow⟩ := exists_of_mem_forall₂ hseeded hmem
  obtain ⟨id, tier, rfl⟩ := mem_rules hseed
  exact hrow.hasNoIssues (by decide) (fits_conditions tier) (noIssues_rule id tier)

end Seed

end SkillTiers
