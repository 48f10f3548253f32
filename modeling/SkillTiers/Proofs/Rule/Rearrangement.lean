/-
# Rules in another order

Rules may be listed in any order in which the active ones for each level keep theirs, and
rules that do not count may come and go: what is built from them is the same, and it has
the same version (`RuleSet.buildAlike_of_rearranged`). So results that are kept under a
version can be shared by all that have the same rules.
-/

import SkillTiers.Proofs.Rule.Choice
import Mathlib.Logic.Relation

namespace SkillTiers

namespace Rule

/-- The second list has the rules of the first one in an order in which the active rules for
each level come as they did. -/
structure Reorders (rules others : List Rule) : Prop where
  perm : rules.Perm others
  order : ∀ level, others.filter (fun rule => rule.isActive && rule.level == level) =
    rules.filter fun rule => rule.isActive && rule.level == level

/-- The second list has the rules in such an order, or has one more, which is inactive or
stands behind an active rule for its level. -/
def Rearranges (rules others : List Rule) : Prop :=
  Reorders rules others ∨ Inserted IsIdleBehind rules others

variable {rules others : List Rule}

theorem Reorders.sameFirsts (hreorders : Reorders rules others) :
    SameFirsts (fun _ => True) rules others where
  levels := by
    unfold LevelsExist
    simp only [hreorders.perm.mem_iff]
  firsts tier _ := by
    unfold firstFor?
    rw [← List.head?_filter, ← List.head?_filter, hreorders.order]

theorem sameFirsts_of_rearranged (hrearranged : Relation.EqvGen Rearranges rules others) :
    SameFirsts (fun _ => True) rules others := by
  refine (equivalence_sameFirsts _).eqvGen_iff.mp (Relation.EqvGen.mono ?_ _ _ hrearranged)
  rintro first second (hreorders | hinserted)
  · exact hreorders.sameFirsts
  · obtain ⟨hidle⟩ := hinserted
    exact hidle.sameFirsts _ _

end Rule

namespace RuleSet

open Rule

variable {rules others : List Rule}

/-- Rules that are built alike classify alike. -/
theorem BuildAlike.classifyCounts (halike : BuildAlike rules others) (policy : String)
    (counts : Counts) :
    classifyCounts others policy counts = classifyCounts rules policy counts := by
  cases hmetrics : counts.metricsUnderName policy with
  | error failure =>
      rw [SkillTiers.classifyCounts, SkillTiers.classifyCounts, hmetrics]
      rfl
  | ok metrics =>
      rw [classifyCounts_of_metrics hmetrics, classifyCounts_of_metrics hmetrics]
      rcases halike with ⟨set, set', hset, hset', -, -, hclassify⟩ | ⟨failure, hfails, hfails'⟩
      · rw [hset, hset']
        exact hclassify metrics
      · rw [hfails, hfails']

/-- Rules for levels that exist that are put into another order, each level keeping its own,
and among which rules that do not count come and go, are built alike, with the same rules for
the levels and one version, and have the same tiers for all counts under every policy. -/
theorem buildAlike_of_rearranged (hlevels : LevelsExist rules)
    (hrearranged : Relation.EqvGen Rearranges rules others) :
    BuildAlike rules others ∧ ∀ policy counts,
      classifyCounts others policy counts = classifyCounts rules policy counts := by
  have halike := buildAlike_of_firsts hlevels (sameFirsts_of_rearranged hrearranged)
  exact ⟨halike, halike.classifyCounts⟩

/-- A rule for experts and one for the intermediate tier. -/
def ladder : List Rule :=
  [expertRule "e" 50, { expertRule "m" 20 with level := "intermediate" }]

/-- The two rules the other way round, between an inactive rule for no tier and a second one
for experts. -/
def shuffledLadder : List Rule :=
  [{ expertRule "g" 0 with level := "guru", isActive := false },
    { expertRule "m" 20 with level := "intermediate" }, expertRule "e" 50, expertRule "f" 0]

/-- Both lists are built alike, and that they are built is sure. -/
theorem buildAlike_of_rearranged_ladder :
    LevelsExist ladder ∧ Relation.EqvGen Rearranges ladder shuffledLadder ∧
      ∃ set set', build ladder = .ok set ∧ build shuffledLadder = .ok set' ∧
        set'.version = set.version := by
  have hlevels : LevelsExist ladder := by
    unfold LevelsExist ladder
    rw [List.forall_mem_cons, List.forall_mem_singleton]
    exact ⟨fun _ => isResult_ok Tier.expert, fun _ => isResult_ok Tier.intermediate⟩
  have hreorders : Rearranges ladder ladder.reverse := by
    refine .inl ⟨(List.reverse_perm ladder).symm, fun level => ?_⟩
    by_cases hexpert : "expert" = level
    · subst hexpert
      rfl
    · simp [ladder, expertRule, List.filter_cons, hexpert]
  have hlater : Rearranges ladder.reverse (ladder.reverse ++ [expertRule "f" 0]) :=
    .inr (@Inserted.mk _ ladder.reverse [] _
      (.shadowed (List.mem_reverse.mpr List.mem_cons_self) rfl rfl))
  have hinactive : Rearranges (ladder.reverse ++ [expertRule "f" 0]) shuffledLadder :=
    .inr (@Inserted.mk _ [] (ladder.reverse ++ [expertRule "f" 0]) _ (.inactive rfl))
  have hrearranged : Relation.EqvGen Rearranges ladder shuffledLadder :=
    .trans _ _ _ (.rel _ _ hreorders) (.trans _ _ _ (.rel _ _ hlater) (.rel _ _ hinactive))
  refine ⟨hlevels, hrearranged, ?_⟩
  have hbuild : IsResult (build ladder) := by
    rw [isResult_build_iff hlevels]
    intro tier rule hrule
    have hloads : ∀ rule ∈ ladder, (Expression.compile rule.conditions).toOption.isSome = true ∧
        rule.IsWritable := by decide +kernel
    exact (hloads rule (List.mem_of_find?_eq_some hrule)).imp_left isResult_of_isSome
  rcases (buildAlike_of_rearranged hlevels hrearranged).1 with
    ⟨set, set', hset, hset', -, hversion, -⟩ | ⟨failure, hfails, -⟩
  · exact ⟨set, set', hset, hset', hversion⟩
  · rw [hfails] at hbuild
    exact absurd hbuild (not_isResult_error failure)

end RuleSet

end SkillTiers
