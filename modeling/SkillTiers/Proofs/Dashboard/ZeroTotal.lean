/-
# No total is zero

The policy for a total of zero decides a percentage only where there is nothing to take
it of. A dashboard never asks for one: what it classifies has a rating or a skill in it,
so the total is at least one (`Catalog.dashboard_of_totals_from_one`). Elsewhere the two
policies may be far apart, as for a rule that a share of zero meets and an undefined one
does not.
-/

import SkillTiers.Proofs.Dashboard.FirstRatings
import SkillTiers.Proofs.Rule.Digest
import SkillTiers.Proofs.Share

namespace SkillTiers

/-- Engines with the same rules classify alike whatever has a total of one or more. -/
theorem Engine.sameFromOne_policy (ruleSet : RuleSet) (policy policy' : ZeroTotalPolicy) :
    (Engine.mk policy ruleSet).SameFromOne ⟨policy', ruleSet⟩ := by
  intro counts total hpositive htotal
  have hzero : counts.total.isZero = false := by
    rw [htotal, Number.isZero_nat]
    exact decide_eq_false (Nat.ne_of_gt hpositive)
  simp only [classify, metrics, Counts.metrics_policy hzero policy policy']

namespace Catalog

/-- A dashboard is decided by how the engine classifies totals of one or more, so it is the
same under either policy for a total of zero. -/
theorem dashboard_of_totals_from_one (catalog : Catalog) (countUnrated : Bool) :
    (∀ engine other : Engine, engine.SameFromOne other →
      catalog.dashboard engine countUnrated = catalog.dashboard other countUnrated) ∧
    ∀ ruleSet : RuleSet, catalog.dashboard ⟨.nan, ruleSet⟩ countUnrated =
      catalog.dashboard ⟨.zero, ruleSet⟩ countUnrated := by
  have hsame (engine other : Engine) (hengines : engine.SameFromOne other) :
      catalog.dashboard engine countUnrated = catalog.dashboard other countUnrated := by
    have hcategory (category : SkillCategory) :
        catalog.index.categoryStats catalog.profiles engine countUnrated category =
          catalog.index.categoryStats catalog.profiles other countUnrated category :=
      categoryStats_congr (fun skill _ => catalogsAgree_refl catalog skill) rfl rfl hengines
        catalog.profiles countUnrated
    rw [dashboard, dashboard, funext hcategory]
  exact ⟨hsame, fun ruleSet => hsame _ _ (Engine.sameFromOne_policy ruleSet .nan .zero)⟩

/-- The two policies under a rule that a share of zero meets. -/
theorem dashboard_of_totals_from_one_lenient :
    (Engine.mk .nan .lenient).classify (.ofRatings [] none) ≠
        (Engine.mk .zero .lenient).classify (.ofRatings [] none) ∧
      (Engine.mk .nan .lenient).SameFromOne ⟨.zero, .lenient⟩ ∧
      IsResult (toldAgain.dashboard ⟨.nan, .lenient⟩ true) ∧
      toldAgain.dashboard ⟨.nan, .lenient⟩ true = toldAgain.dashboard ⟨.zero, .lenient⟩ true := by
  have hsame := Engine.sameFromOne_policy .lenient .nan .zero
  refine ⟨?_, hsame, ?_, (dashboard_of_totals_from_one toldAgain true).1 _ _ hsame⟩
  · intro hclassify
    have htier := congrArg Except.toOption hclassify
    revert htier
    decide +kernel
  · have hsome : (toldAgain.dashboard ⟨.nan, .lenient⟩ true).toOption.isSome = true := by
      decide +kernel
    obtain ⟨reports, hreports⟩ := Option.isSome_iff_exists.mp hsome
    exact ⟨reports, ok_of_toOption hreports⟩

end Catalog

end SkillTiers
