/-
# The rule that counts for a level

Of the active rules for a level the first counts (`Rule.firstFor?`). A rule set that is
built has exactly these rules, with their conditions compiled
(`RuleSet.chosenFor?_cases`), and tries them alone (`RuleSet.reaches_of_build`). So lists
of rules in which the same rules come first for the levels build rule sets that have the
same rules for the levels, one version, and the same tiers, or they fail alike
(`RuleSet.buildAlike_of_firsts`). A rule that is inactive, or stands behind another
active rule for its level, comes first for none: adding or removing it changes nothing.
-/

import SkillTiers.Proofs.Rule.Totality

namespace SkillTiers

namespace Rule

/-- The first active rule for a level. -/
def firstFor? (rules : List Rule) (tier : Tier) : Option Rule :=
  rules.find? fun rule => rule.isActive && rule.level == tier.name

/-- The first active rule for the tier can be loaded, if there is one: it can be compiled, and
there is room for it in a canonical text. -/
def Loads (rules : List Rule) (tier : Tier) : Prop :=
  ∀ rule, firstFor? rules tier = some rule →
    IsResult (Expression.compile rule.conditions) ∧ rule.IsWritable

/-- The level of every active rule exists. -/
def LevelsExist (rules : List Rule) : Prop :=
  ∀ rule ∈ rules, rule.isActive = true → IsResult rule.tier

/-- Behind these rules the rule does not count: it is inactive, or one of them is active
and for its level. -/
inductive IsIdleBehind (before : List Rule) (rule : Rule) : Prop where
  | inactive (hinactive : rule.isActive = false)
  | shadowed {earlier : Rule} (hmem : earlier ∈ before) (hactive : earlier.isActive = true)
      (hlevel : earlier.level = rule.level)

/-- The second list has one more rule, which is one of those that are accepted behind the
rules before it. -/
inductive Inserted (accepts : List Rule → Rule → Prop) : List Rule → List Rule → Prop where
  | mk {before after : List Rule} {rule : Rule} (haccepts : accepts before rule) :
      Inserted accepts (before ++ after) (before ++ rule :: after)

/-- In both lists the same rules come first for these tiers, and the levels of both exist
or those of neither. -/
structure SameFirsts (tiers : Tier → Prop) (rules others : List Rule) : Prop where
  levels : LevelsExist rules ↔ LevelsExist others
  firsts : ∀ tier, tiers tier → firstFor? others tier = firstFor? rules tier

theorem equivalence_sameFirsts (tiers : Tier → Prop) : Equivalence (SameFirsts tiers) where
  refl _ := ⟨Iff.rfl, fun _ _ => rfl⟩
  symm hsame := ⟨hsame.levels.symm, fun tier htier => (hsame.firsts tier htier).symm⟩
  trans hsame hsame' := ⟨hsame.levels.trans hsame'.levels,
    fun tier htier => (hsame'.firsts tier htier).trans (hsame.firsts tier htier)⟩

variable {before after rules : List Rule} {rule : Rule}

/-- A rule that is not the first for a tier can be left out. -/
theorem firstFor?_insert {tier : Tier}
    (hpassed : (rule.isActive && rule.level == tier.name) = true →
      ∃ earlier ∈ before, (earlier.isActive && earlier.level == tier.name) = true) :
    firstFor? (before ++ rule :: after) tier = firstFor? (before ++ after) tier := by
  unfold firstFor?
  rw [List.find?_append, List.find?_append]
  cases hbefore : before.find? fun rule => rule.isActive && rule.level == tier.name with
  | some found => rfl
  | none =>
      rw [Option.none_or, Option.none_or]
      refine List.find?_cons_of_neg fun hcounts => ?_
      obtain ⟨earlier, hmem, hearlier⟩ := hpassed hcounts
      exact List.find?_eq_none.mp hbefore earlier hmem hearlier

/-- An idle rule comes first for no tier. -/
theorem IsIdleBehind.firstFor? (hidle : IsIdleBehind before rule) (after : List Rule)
    (tier : Tier) :
    firstFor? (before ++ rule :: after) tier = firstFor? (before ++ after) tier := by
  apply firstFor?_insert
  intro hcounts
  rw [Bool.and_eq_true] at hcounts
  cases hidle with
  | inactive hinactive => exact absurd hcounts.1 (Bool.eq_false_iff.mp hinactive)
  | @shadowed earlier hmem hactive hlevel =>
      refine ⟨earlier, hmem, ?_⟩
      rw [hactive, hlevel]
      exact hcounts.2

theorem levelsExist_insert :
    LevelsExist (before ++ rule :: after) ↔
      (rule.isActive = true → IsResult rule.tier) ∧ LevelsExist (before ++ after) := by
  unfold LevelsExist
  simp only [List.forall_mem_append, List.forall_mem_cons]
  exact and_left_comm

/-- The level of an idle rule need not exist unless the rule is active. -/
theorem IsIdleBehind.levelsExist (hidle : IsIdleBehind before rule) (after : List Rule) :
    LevelsExist (before ++ rule :: after) ↔ LevelsExist (before ++ after) := by
  rw [levelsExist_insert]
  refine ⟨And.right, fun hexist => ⟨fun hactive => ?_, hexist⟩⟩
  cases hidle with
  | inactive hinactive => exact absurd hactive (Bool.eq_false_iff.mp hinactive)
  | @shadowed earlier hmem hcounts hlevel =>
      unfold Rule.tier
      rw [← hlevel]
      exact hexist earlier (List.mem_append_left _ hmem) hcounts

/-- One more idle rule, or one less, leaves the first rules as they are. -/
theorem IsIdleBehind.sameFirsts (hidle : IsIdleBehind before rule) (after : List Rule)
    (tiers : Tier → Prop) : SameFirsts tiers (before ++ after) (before ++ rule :: after) where
  levels := (hidle.levelsExist after).symm
  firsts tier _ := hidle.firstFor? after tier

end Rule

namespace RuleSet

open Rule

/-- The first item of each tier is the first one in the list. -/
theorem find?_firsts (items front : List (Tier × Rule)) (tier : Tier) :
    (items.foldl (fun first item =>
      if first.any (·.1 == item.1) then first else first ++ [item]) front).find?
        (·.1 == tier) = (front ++ items).find? (·.1 == tier) := by
  induction items generalizing front with
  | nil => rw [List.foldl_nil, List.append_nil]
  | cons item rest ih =>
      rw [List.foldl_cons, ih]
      split
      · rename_i hknown
        rw [List.find?_append, List.find?_append]
        cases hfront : front.find? (·.1 == tier) with
        | some found => rfl
        | none =>
            obtain ⟨old, hold, hsame⟩ := List.any_eq_true.mp hknown
            have hother : ¬ (item.1 == tier) = true := by
              rw [← beq_iff_eq.mp hsame]
              exact List.find?_eq_none.mp hfront old hold
            exact (List.find?_cons_of_neg (p := fun item : Tier × Rule => item.1 == tier)
              hother).symm
      · rw [List.append_assoc, List.singleton_append]

variable {rules others : List Rule} {first first' : List (Tier × Rule)}

/-- The rules that count are the first ones for their tiers. -/
theorem find?_firstOfLevels (hfirst : firstOfLevels rules = .ok first) (tier : Tier) :
    first.find? (·.1 == tier) = (firstFor? rules tier).map fun rule => (tier, rule) := by
  obtain ⟨items, hitems, rfl⟩ := map_ok hfirst
  rw [find?_firsts, List.nil_append]
  have hactive : firstFor? rules tier =
      (rules.filter (·.isActive)).find? (·.level == tier.name) := by
    unfold firstFor?
    rw [List.find?_filter]
    congr 1
    funext rule
    rw [Bool.decide_and, Bool.decide_eq_true, Bool.decide_eq_true]
  have hlevel (rule : Rule) (item : Tier × Rule)
      (h : (do return (← rule.tier, rule)) = (.ok item : Outcome (Tier × Rule))) :
      (rule.level == tier.name) = (item.1 == tier) := by
    obtain ⟨found, hfound, rfl⟩ := map_ok h
    rw [Tier.ofLevel_ok hfound, Bool.eq_iff_iff, beq_iff_eq, beq_iff_eq]
    exact ⟨Tier.name_inj, congrArg _⟩
  rw [hactive]
  rcases find?_forall₂ hlevel (forall₂_of_mapM hitems) with
    ⟨rule, item, hrule, hitem, h⟩ | ⟨hnone, hnone'⟩
  · obtain ⟨found, -, rfl⟩ := map_ok h
    have htier : found = tier :=
      beq_iff_eq.mp (List.find?_some (p := fun item : Tier × Rule => item.1 == tier) hitem)
    rw [hrule, hitem, htier]
    rfl
  · rw [hnone, hnone']
    rfl

/-- Rules can be told apart only if the levels of the active ones exist. -/
theorem levelsExist_of_firstOfLevels (hfirst : IsResult (firstOfLevels rules)) :
    LevelsExist rules := by
  unfold firstOfLevels at hfirst
  rw [isResult_map, isResult_mapM] at hfirst
  intro rule hrule hactive
  exact (isResult_map (fun tier => (tier, rule)) rule.tier).mp
    (hfirst rule (List.mem_filter.mpr ⟨hrule, hactive⟩))

/-- The rules that count are the first ones. -/
theorem mem_firstOfLevels {first : List (Tier × Rule)} (hfirst : firstOfLevels rules = .ok first)
    (item : Tier × Rule) : item ∈ first ↔ firstFor? rules item.1 = some item.2 := by
  rw [mem_iff_find?_key Prod.fst (nodup_firstOfLevels hfirst), find?_firstOfLevels hfirst,
    Option.map_eq_some_iff]
  constructor
  · rintro ⟨rule, hrule, hitem⟩
    rw [hrule, ← hitem]
  · exact fun hrule => ⟨item.2, hrule, rfl⟩

/-- Rules for levels that exist are built if and only if those that come first can be
loaded. -/
theorem isResult_build_iff (hlevels : LevelsExist rules) :
    IsResult (build rules) ↔ ∀ tier, Loads rules tier := by
  obtain ⟨first, hfirst⟩ := isResult_firstOfLevels hlevels
  rw [isResult_build hfirst]
  constructor
  · intro hitems tier rule hrule
    have hitem := hitems (tier, rule) ((mem_firstOfLevels hfirst _).mpr hrule)
    exact hitem.imp_left (Expression.isResult_compile _).mpr
  · intro hloads item hmem
    have hitem := hloads item.1 item.2 ((mem_firstOfLevels hfirst item).mp hmem)
    exact hitem.imp_left (Expression.isResult_compile _).mp

/-! ### What a rule set chooses -/

/-- A rule set that is built has for each tier the first active rule, compiled, or no rule
where there is none. -/
theorem chosenFor?_cases {set : RuleSet} (hbuild : build rules = .ok set) (tier : Tier) :
    (∃ rule expression, firstFor? rules tier = some rule ∧
        Expression.compile rule.conditions = .ok expression ∧
        set.chosenFor? tier = some ⟨tier, rule, expression⟩) ∨
      (firstFor? rules tier = none ∧ set.chosenFor? tier = none) := by
  obtain ⟨first, hfirst, hall, -, -⟩ := build_ok hbuild
  have hfound := find?_firstOfLevels hfirst tier
  have htier (item : Tier × Rule) (chosen : ChosenRule)
      (h : (do return ChosenRule.mk item.1 item.2 (← Expression.compile item.2.conditions)) =
        (.ok chosen : Outcome ChosenRule)) : (item.1 == tier) = (chosen.tier == tier) := by
    obtain ⟨expression, -, rfl⟩ := map_ok h
    rfl
  rcases find?_forall₂ htier (forall₂_of_mapM hall) with
    ⟨item, chosen, hitem, hchosen, h⟩ | ⟨hnone, hnone'⟩
  · obtain ⟨expression, hcompile, rfl⟩ := map_ok h
    rw [hitem] at hfound
    obtain ⟨rule, hrule, rfl⟩ := Option.map_eq_some_iff.mp hfound.symm
    exact .inl ⟨rule, expression, hrule, hcompile, hchosen⟩
  · rw [hnone] at hfound
    exact .inr ⟨Option.map_eq_none_iff.mp hfound.symm, hnone'⟩

/-- A rule set that is built reaches a tier if the first active rule for it holds. -/
theorem reaches_of_build {set : RuleSet} (hbuild : build rules = .ok set)
    (metrics : SkillMetrics) (tier : Tier) :
    set.reaches metrics tier = (firstFor? rules tier).elim (.ok false)
      fun rule => evaluateLevel metrics rule.conditions := by
  unfold reaches
  rcases chosenFor?_cases hbuild tier with
    ⟨rule, expression, hrule, hcompile, hchosen⟩ | ⟨hnone, hchosen⟩
  · rw [hrule, hchosen, Option.elim_some, evaluateLevel, hcompile]
    rfl
  · rw [hnone, hchosen]
    rfl

/-- Counts with metrics are classified by the rule set that is built. -/
theorem classifyCounts_of_metrics {policy : String} {counts : Counts} {metrics : SkillMetrics}
    (hmetrics : counts.metricsUnderName policy = .ok metrics) (rules : List Rule) :
    classifyCounts rules policy counts = (build rules >>= fun set => set.classify metrics) := by
  rw [classifyCounts, hmetrics]
  rfl

/-! ### Lists with the same first rules -/

/-- Both lists of rules build a rule set, with the same rules for the tiers, one version and
the same tier or failure for all metrics, or both fail alike. -/
def BuildAlike (rules others : List Rule) : Prop :=
  (∃ set set', build rules = .ok set ∧ build others = .ok set' ∧
      (∀ tier, set'.chosenFor? tier = set.chosenFor? tier) ∧ set'.version = set.version ∧
      ∀ metrics, set'.classify metrics = set.classify metrics) ∨
    ∃ failure, build rules = .error failure ∧ build others = .error failure

/-- Where the same rule comes first for a tier, the same rule is chosen for it. -/
theorem chosenFor?_congr {set set' : RuleSet} {tier : Tier} (hbuild : build rules = .ok set)
    (hbuild' : build others = .ok set') (hsame : firstFor? others tier = firstFor? rules tier) :
    set'.chosenFor? tier = set.chosenFor? tier := by
  rcases chosenFor?_cases hbuild tier with ⟨rule, expression, hrule, hcompile, hchosen⟩ |
    ⟨hnone, hchosen⟩
  · rcases chosenFor?_cases hbuild' tier with
      ⟨rule', expression', hrule', hcompile', hchosen'⟩ | ⟨hnone', -⟩
    · cases hrule'.symm.trans (hsame.trans hrule)
      cases hcompile.symm.trans hcompile'
      rw [hchosen, hchosen']
    · cases hnone'.symm.trans (hsame.trans hrule)
  · rcases chosenFor?_cases hbuild' tier with ⟨rule', -, hrule', -, -⟩ | ⟨-, hchosen'⟩
    · cases hrule'.symm.trans (hsame.trans hnone)
    · rw [hchosen, hchosen']

/-- Where the same rules come first for the tiers, the same rules count, in some order. -/
theorem firstOfLevels_perm (hfirst : firstOfLevels rules = .ok first)
    (hfirst' : firstOfLevels others = .ok first')
    (hsame : ∀ tier, firstFor? others tier = firstFor? rules tier) : first.Perm first' := by
  have hkeys := nodup_firstOfLevels hfirst
  have hkeys' := nodup_firstOfLevels hfirst'
  refine (List.perm_ext_iff_of_nodup hkeys.of_map hkeys'.of_map).mpr fun item => ?_
  rw [mem_iff_find?_key Prod.fst hkeys, mem_iff_find?_key Prod.fst hkeys',
    find?_firstOfLevels hfirst, find?_firstOfLevels hfirst', hsame]

/-- The canonical text puts rules for different tiers into an order of its own. -/
theorem canonicalText_perm (hperm : first.Perm first') (hkeys : (first.map (·.1)).Nodup) :
    canonicalText first = canonicalText first' := by
  have hsorted : sortBy (fun a b => decide (a.1.name ≤ b.1.name)) first =
      sortBy (fun a b => decide (a.1.name ≤ b.1.name)) first' := by
    refine List.Perm.eq_of_pairwise (fun a b ha hb hab hba => ?_)
      (pairwise_sortBy_key (·.1.name) first) (pairwise_sortBy_key (·.1.name) first')
      ((sortBy_perm _ _).trans (hperm.trans (sortBy_perm _ _).symm))
    -- Rules for one tier are one rule, since no tier comes twice.
    have hname : a.1.name = b.1.name := String.le_antisymm hab hba
    exact List.inj_on_of_nodup_map hkeys ((sortBy_perm _ _).mem_iff.mp ha)
      (hperm.mem_iff.mpr ((sortBy_perm _ _).mem_iff.mp hb)) (Tier.name_inj hname)
  unfold canonicalText canonical
  rw [hsorted]

/-- Rules for levels that exist are built alike if the same rules come first for the
tiers. -/
theorem buildAlike_of_firsts (hlevels : LevelsExist rules)
    (hfirsts : SameFirsts (fun _ => True) rules others) : BuildAlike rules others := by
  have hsame (tier : Tier) := hfirsts.firsts tier trivial
  obtain ⟨first, hfirst⟩ := isResult_firstOfLevels hlevels
  obtain ⟨first', hfirst'⟩ := isResult_firstOfLevels (hfirsts.levels.mp hlevels)
  have hperm := firstOfLevels_perm hfirst hfirst' hsame
  have htext := canonicalText_perm hperm (nodup_firstOfLevels hfirst)
  rcases build_of_canonicalText hfirst hfirst' htext with
    ⟨set, set', hset, hset', hclassify⟩ | hfailure
  · refine .inl ⟨set, set', hset, hset', fun tier => chosenFor?_congr hset hset' (hsame tier),
      ?_, fun metrics => (hclassify metrics).symm⟩
    obtain ⟨hcounting, hversion⟩ := build_counting hset
    obtain ⟨hcounting', hversion'⟩ := build_counting hset'
    cases hfirst.symm.trans hcounting
    cases hfirst'.symm.trans hcounting'
    rw [versionOf_of_canonicalText htext, hversion'] at hversion
    exact Except.ok.inj hversion
  · exact .inr hfailure

end RuleSet

end SkillTiers
