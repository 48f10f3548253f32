/-
# Which tier is the answer

The first active rule for experts is tried first and the first one for the intermediate
tier next; the lowest tier is what remains (`ByPriority`). So rules that do not come first
decide nothing, and no rule for the lowest tier does, whether it holds or not. Such a rule
counts only in that it may keep the others from an answer: it is loaded with them, and
tried where neither of them holds (`RuleSet.classifyCounts_by_priority`).
-/

import SkillTiers.Proofs.Condition.Segments
import SkillTiers.Proofs.Rule.Choice
import Mathlib.Logic.Relation

namespace SkillTiers

namespace Rule

/-- There is an active rule for the tier, and the first one holds. -/
def Reaches (rules : List Rule) (metrics : SkillMetrics) (tier : Tier) : Prop :=
  ∃ rule, firstFor? rules tier = some rule ∧ evaluateLevel metrics rule.conditions = .ok true

/-- The first active rule for the tier can be tried on the metrics, if there is one. -/
def Evaluates (rules : List Rule) (metrics : SkillMetrics) (tier : Tier) : Prop :=
  ∀ rule, firstFor? rules tier = some rule → IsResult (evaluateLevel metrics rule.conditions)

/-- Nothing fails that a classification works out: the rules that come first can be loaded, and
those that are tried can be tried on the metrics. -/
structure FailsNowhere (rules : List Rule) (metrics : SkillMetrics) : Prop where
  load : ∀ tier, Loads rules tier
  expert : Evaluates rules metrics .expert
  intermediate : ¬ Reaches rules metrics .expert → Evaluates rules metrics .intermediate
  beginner : ¬ Reaches rules metrics .expert → ¬ Reaches rules metrics .intermediate →
    Evaluates rules metrics .beginner

/-- The tier is the highest one whose first active rule holds, the lowest one aside, which
needs no rule. -/
structure ByPriority (rules : List Rule) (metrics : SkillMetrics) (tier : Tier) : Prop where
  expert : tier = .expert ↔ Reaches rules metrics .expert
  intermediate : tier = .intermediate ↔
    ¬ Reaches rules metrics .expert ∧ Reaches rules metrics .intermediate
  beginner : tier = .beginner ↔
    ¬ Reaches rules metrics .expert ∧ ¬ Reaches rules metrics .intermediate

/-- Behind these rules the rule decides nothing: it does not count, or it is for the lowest
tier. -/
def IsInertBehind (before : List Rule) (rule : Rule) : Prop :=
  IsIdleBehind before rule ∨ rule.level = Tier.beginner.name

variable {rules others : List Rule} {metrics : SkillMetrics} {tier : Tier}

/-- Only one tier is the answer. -/
theorem ByPriority.unique {other : Tier} (htier : ByPriority rules metrics tier)
    (hother : ByPriority rules metrics other) : other = tier := by
  cases tier with
  | expert => exact hother.expert.mpr (htier.expert.mp rfl)
  | intermediate => exact hother.intermediate.mpr (htier.intermediate.mp rfl)
  | beginner => exact hother.beginner.mpr (htier.beginner.mp rfl)

/-- The tier is decided by what is reached above the lowest tier. -/
theorem ByPriority.congr {metrics' : SkillMetrics}
    (hreaches : ∀ level, level ≠ .beginner →
      (Reaches rules metrics level ↔ Reaches others metrics' level))
    (htier : ByPriority rules metrics tier) : ByPriority others metrics' tier := by
  have hexpert := hreaches .expert nofun
  have hintermediate := hreaches .intermediate nofun
  exact {
    expert := htier.expert.trans hexpert
    intermediate := htier.intermediate.trans (and_congr (not_congr hexpert) hintermediate)
    beginner := htier.beginner.trans (and_congr (not_congr hexpert) (not_congr hintermediate)) }

/-- Of the first rules only those above the lowest tier decide. -/
theorem ByPriority.of_sameFirsts (hsame : SameFirsts (· ≠ .beginner) rules others)
    (htier : ByPriority others metrics tier) : ByPriority rules metrics tier := by
  refine htier.congr fun level hlevel => ?_
  unfold Reaches
  rw [hsame.firsts level hlevel]

/-- Other rules fail nowhere either if those above the lowest tier are the same and one for
the lowest tier can be loaded and, where it is tried, tried. -/
theorem FailsNowhere.of_sameFirsts (hnowhere : FailsNowhere rules metrics)
    (hsame : SameFirsts (· ≠ .beginner) rules others) (hloads : Loads others .beginner)
    (hevaluates : ¬ Reaches rules metrics .expert → ¬ Reaches rules metrics .intermediate →
      Evaluates others metrics .beginner) : FailsNowhere others metrics := by
  have hfirst (level : Tier) (hlevel : level ≠ .beginner) := hsame.firsts level hlevel
  have hload (level : Tier) : Loads others level := by
    by_cases hlevel : level = .beginner
    · exact hlevel ▸ hloads
    · unfold Loads
      rw [hfirst level hlevel]
      exact hnowhere.load level
  refine ⟨hload, ?_, ?_, ?_⟩
  · unfold Evaluates
    rw [hfirst .expert nofun]
    exact hnowhere.expert
  · unfold Evaluates Reaches
    rw [hfirst .expert nofun, hfirst .intermediate nofun]
    exact hnowhere.intermediate
  · unfold Reaches
    rw [hfirst .expert nofun, hfirst .intermediate nofun]
    exact hevaluates

/-- One more rule that decides nothing leaves the first rules above the lowest tier as they
are. -/
theorem IsInertBehind.sameFirsts {before after : List Rule} {rule : Rule}
    (hinert : IsInertBehind before rule) :
    SameFirsts (· ≠ .beginner) (before ++ after) (before ++ rule :: after) := by
  rcases hinert with hidle | hlowest
  · exact hidle.sameFirsts after _
  · refine ⟨?_, fun level hlevel => firstFor?_insert fun hcounts => ?_⟩
    · rw [levelsExist_insert]
      refine ⟨fun hexist => ⟨fun _ => ?_, hexist⟩, And.right⟩
      rw [Rule.tier, hlowest, Tier.ofLevel_name]
      exact isResult_ok _
    · -- The rule is for the lowest tier and for no other.
      rw [Bool.and_eq_true, hlowest, beq_iff_eq] at hcounts
      exact absurd (Tier.name_inj hcounts.2).symm hlevel

/-- So do any number of them that come or go. -/
theorem sameFirsts_of_inert (hinert : Relation.EqvGen (Inserted IsInertBehind) rules others) :
    SameFirsts (· ≠ .beginner) rules others := by
  refine (equivalence_sameFirsts _).eqvGen_iff.mp (Relation.EqvGen.mono ?_ _ _ hinert)
  rintro _ _ ⟨hinert⟩
  exact hinert.sameFirsts

end Rule

namespace RuleSet

open Rule

variable {rules : List Rule} {metrics : SkillMetrics}

section Trying

variable {set : RuleSet} (hbuild : build rules = .ok set)

include hbuild

/-- A tier is tried with an answer if its first rule has one. -/
theorem isResult_reaches (tier : Tier) :
    IsResult (set.reaches metrics tier) ↔ Evaluates rules metrics tier := by
  rw [reaches_of_build hbuild]
  unfold Evaluates
  cases firstFor? rules tier with
  | none => exact iff_of_true (isResult_ok _) nofun
  | some rule => simp only [Option.elim_some, Option.some.injEq, forall_eq']

/-- A tier is reached if its first rule holds. -/
theorem reaches_ok_iff (tier : Tier) :
    set.reaches metrics tier = .ok true ↔ Reaches rules metrics tier := by
  rw [reaches_of_build hbuild]
  unfold Reaches
  cases firstFor? rules tier with
  | none => exact iff_of_false nofun nofun
  | some rule => simp only [Option.elim_some, Option.some.injEq, exists_eq_left']

/-- A tier that is reached is the answer. -/
theorem firstReached_of_reaches {tier : Tier} (hreaches : Reaches rules metrics tier)
    (rest : List Tier) : set.firstReached metrics (tier :: rest) = .ok tier := by
  rw [firstReached, (reaches_ok_iff hbuild tier).mpr hreaches]
  rfl

/-- A tier that is not reached leaves the answer to the others. -/
theorem firstReached_of_not_reaches {tier : Tier} (hevaluates : Evaluates rules metrics tier)
    (hmissed : ¬ Reaches rules metrics tier) (rest : List Tier) :
    set.firstReached metrics (tier :: rest) = set.firstReached metrics rest := by
  obtain ⟨holds, hholds⟩ := (isResult_reaches hbuild tier).mpr hevaluates
  rw [← reaches_ok_iff hbuild, hholds] at hmissed
  rw [firstReached, hholds]
  cases holds with
  | true => exact absurd rfl hmissed
  | false => rfl

/-- Tiers are tried with an answer if the first one is and, where it is not reached, the
others are. -/
theorem isResult_firstReached_cons (tier : Tier) (rest : List Tier) :
    IsResult (set.firstReached metrics (tier :: rest)) ↔ Evaluates rules metrics tier ∧
      (¬ Reaches rules metrics tier → IsResult (set.firstReached metrics rest)) := by
  constructor
  · intro hanswer
    have hevaluates : Evaluates rules metrics tier := by
      rw [← isResult_reaches hbuild]
      cases hreaches : set.reaches metrics tier with
      | ok holds => exact isResult_ok holds
      | error failure =>
          rw [firstReached, hreaches] at hanswer
          exact absurd hanswer (not_isResult_error failure)
    refine ⟨hevaluates, fun hmissed => ?_⟩
    rwa [firstReached_of_not_reaches hbuild hevaluates hmissed] at hanswer
  · rintro ⟨hevaluates, hrest⟩
    by_cases hreaches : Reaches rules metrics tier
    · exact ⟨tier, firstReached_of_reaches hbuild hreaches rest⟩
    · rw [firstReached_of_not_reaches hbuild hevaluates hreaches]
      exact hrest hreaches

/-- A classification under rules that are built has an answer if and only if it fails
nowhere. -/
theorem isResult_classify_iff (hlevels : LevelsExist rules) :
    IsResult (set.classify metrics) ↔ FailsNowhere rules metrics := by
  unfold classify Tier.priority
  rw [isResult_firstReached_cons hbuild, isResult_firstReached_cons hbuild,
    isResult_firstReached_cons hbuild]
  constructor
  · rintro ⟨hexpert, hrest⟩
    exact ⟨(isResult_build_iff hlevels).mp ⟨set, hbuild⟩, hexpert, fun hmissed => (hrest hmissed).1,
      fun hmissed hmissed' => ((hrest hmissed).2 hmissed').1⟩
  · rintro ⟨-, hexpert, hintermediate, hbeginner⟩
    exact ⟨hexpert, fun hmissed => ⟨hintermediate hmissed, fun hmissed' =>
      ⟨hbeginner hmissed hmissed', fun _ => isResult_ok _⟩⟩⟩

/-- The answer is the tier by priority. -/
theorem classify_byPriority (hnowhere : FailsNowhere rules metrics) :
    ∃ tier, set.classify metrics = .ok tier ∧ ByPriority rules metrics tier := by
  unfold classify Tier.priority
  by_cases hexpert : Reaches rules metrics .expert
  · refine ⟨.expert, firstReached_of_reaches hbuild hexpert _, ?_⟩
    constructor <;> simp [hexpert]
  rw [firstReached_of_not_reaches hbuild hnowhere.expert hexpert]
  by_cases hintermediate : Reaches rules metrics .intermediate
  · refine ⟨.intermediate, firstReached_of_reaches hbuild hintermediate _, ?_⟩
    constructor <;> simp [hexpert, hintermediate]
  rw [firstReached_of_not_reaches hbuild (hnowhere.intermediate hexpert) hintermediate]
  refine ⟨.beginner, ?_, by constructor <;> simp [hexpert, hintermediate]⟩
  -- Whether the rule of the lowest tier holds makes no difference.
  by_cases hbeginner : Reaches rules metrics .beginner
  · exact firstReached_of_reaches hbuild hbeginner _
  · exact firstReached_of_not_reaches hbuild (hnowhere.beginner hexpert hintermediate) hbeginner []

end Trying

section Counting

variable {policy : String} {counts : Counts}

/-- Rules classify counts if and only if the classification of their metrics fails nowhere,
and then by priority. -/
theorem classifyCounts_cases (hlevels : LevelsExist rules)
    (hmetrics : counts.metricsUnderName policy = .ok metrics) :
    (IsResult (classifyCounts rules policy counts) ↔ FailsNowhere rules metrics) ∧
      (FailsNowhere rules metrics → ∃ tier, classifyCounts rules policy counts = .ok tier ∧
        ByPriority rules metrics tier) := by
  rw [classifyCounts_of_metrics hmetrics]
  cases hbuild : build rules with
  | ok set => exact ⟨isResult_classify_iff hbuild hlevels, classify_byPriority hbuild⟩
  | error failure =>
      have hfails : ¬ FailsNowhere rules metrics := fun hnowhere => by
        have hbuilt := (isResult_build_iff hlevels).mpr hnowhere.load
        rw [hbuild] at hbuilt
        exact not_isResult_error failure hbuilt
      exact ⟨iff_of_false (not_isResult_error failure) hfails, fun hnowhere =>
        absurd hnowhere hfails⟩

/-- The levels of rules that classify counts exist, and the tier is the one by priority. -/
theorem classifyCounts_byPriority {tier : Tier}
    (htier : classifyCounts rules policy counts = .ok tier) :
    LevelsExist rules ∧ ∃ metrics, counts.metricsUnderName policy = .ok metrics ∧
      FailsNowhere rules metrics ∧ ByPriority rules metrics tier := by
  have hlevels : LevelsExist rules := by
    obtain ⟨set, hbuild⟩ := isResult_build_of_classifyCounts htier
    exact levelsExist_of_firstOfLevels ⟨_, (build_counting hbuild).1⟩
  cases hmetrics : counts.metricsUnderName policy with
  | error failure =>
      rw [classifyCounts, hmetrics] at htier
      cases htier
  | ok metrics =>
      obtain ⟨hanswer, hpriority⟩ := classifyCounts_cases hlevels hmetrics
      have hnowhere := hanswer.mp ⟨tier, htier⟩
      obtain ⟨other, hother, hby⟩ := hpriority hnowhere
      cases htier.symm.trans hother
      exact ⟨hlevels, metrics, rfl, hnowhere, hby⟩

/-- Rules for levels that exist have a tier for counts exactly if the classification fails
nowhere. It is the highest tier whose first active rule holds, and the lowest one where
neither of those above it does. Rules that are inactive, that stand behind an active rule for
their level, or that are for the lowest tier may come and go: as long as a first rule for
the lowest tier can be loaded and, where it is tried, has an answer, the tier is the same. -/
theorem classifyCounts_by_priority (hlevels : LevelsExist rules)
    (hmetrics : counts.metricsUnderName policy = .ok metrics) :
    (IsResult (classifyCounts rules policy counts) ↔ FailsNowhere rules metrics) ∧
    (FailsNowhere rules metrics →
      ∃ tier, classifyCounts rules policy counts = .ok tier ∧ ByPriority rules metrics tier ∧
        ∀ others, Relation.EqvGen (Inserted IsInertBehind) rules others →
          Loads others .beginner → (tier = .beginner → Evaluates others metrics .beginner) →
            classifyCounts others policy counts = .ok tier) := by
  obtain ⟨hanswer, hpriority⟩ := classifyCounts_cases hlevels hmetrics
  refine ⟨hanswer, fun hnowhere => ?_⟩
  obtain ⟨tier, htier, hby⟩ := hpriority hnowhere
  refine ⟨tier, htier, hby, fun others hinert hloads hevaluates => ?_⟩
  have hsame := sameFirsts_of_inert hinert
  have hnowhere' : FailsNowhere others metrics :=
    hnowhere.of_sameFirsts hsame hloads fun hexpert hintermediate =>
      hevaluates (hby.beginner.mpr ⟨hexpert, hintermediate⟩)
  obtain ⟨other, hother, hby'⟩ :=
    (classifyCounts_cases (hsame.levels.mp hlevels) hmetrics).2 hnowhere'
  rw [hother, hby.unique (hby'.of_sameFirsts hsame)]

end Counting

/-- A rule that compares two counts. -/
def countRule (id level metric other : String) (active : Bool) : Rule :=
  ⟨id, level, [Condition.comparing metric ">" other none []], 0, active⟩

/-- One rule for the intermediate tier. -/
def leaning : List Rule :=
  [countRule "m" "intermediate" "mediumCount" "lowCount" true]

/-- The rule among an inactive one for experts, a later one for its own level, and one for the
lowest tier, of which all but the later one hold for the counts below. -/
def crowded : List Rule :=
  [countRule "x" "expert" "mediumCount" "lowCount" false,
    countRule "b" "beginner" "mediumCount" "highCount" true,
    countRule "m" "intermediate" "mediumCount" "lowCount" true,
    countRule "n" "intermediate" "lowCount" "mediumCount" true]

/-- The metrics of one medium rating in a total of zero. -/
def oneMedium : SkillMetrics :=
  ⟨0, 1, 0, 0, .zero, .zero, .zero⟩

/-- The other rules leave the tier of the one rule as it is. -/
theorem classifyCounts_by_priority_leaning :
    LevelsExist leaning ∧
      (WholeCounts.mk 0 1 0 0).toCounts.metricsUnderName "zero" = .ok oneMedium ∧
      FailsNowhere leaning oneMedium ∧
      classifyCounts leaning "zero" (WholeCounts.mk 0 1 0 0).toCounts = .ok .intermediate ∧
      classifyCounts crowded "zero" (WholeCounts.mk 0 1 0 0).toCounts = .ok .intermediate := by
  have hmetrics : (WholeCounts.mk 0 1 0 0).toCounts.metricsUnderName ZeroTotalPolicy.zero.name =
      .ok oneMedium := by
    have hpercentage (count : Number) : percentage .zero count (.int 0) = .ok .zero :=
      if_pos (by decide +kernel)
    rw [Counts.metricsUnderName_name, Counts.metrics_of_check (WholeCounts.check_toCounts _)]
    unfold Counts.metricsUnder
    simp only [WholeCounts.toCounts, Nat.cast_zero, hpercentage]
    rfl
  have hlevels : LevelsExist leaning :=
    List.forall_mem_singleton.mpr fun _ => isResult_ok Tier.intermediate
  have hanswers : ∀ rule ∈ crowded, (IsResult (Expression.compile rule.conditions) ∧
      rule.IsWritable) ∧ IsResult (evaluateLevel oneMedium rule.conditions) := by
    intro rule hmem
    have hsome : (Expression.compile rule.conditions).toOption.isSome = true ∧
        rule.IsWritable ∧ (evaluateLevel oneMedium rule.conditions).toOption.isSome = true := by
      revert rule
      decide +kernel
    exact ⟨⟨isResult_of_isSome hsome.1, hsome.2.1⟩, isResult_of_isSome hsome.2.2⟩
  have hfirst (rules : List Rule) (hrules : rules ⊆ crowded) (tier : Tier) :
      Loads rules tier ∧ Evaluates rules oneMedium tier := by
    constructor <;> intro rule hrule
    · exact (hanswers rule (hrules (List.mem_of_find?_eq_some hrule))).1
    · exact (hanswers rule (hrules (List.mem_of_find?_eq_some hrule))).2
  have hleaning : leaning ⊆ crowded := by
    simp [leaning, crowded]
  have hnowhere : FailsNowhere leaning oneMedium :=
    ⟨fun tier => (hfirst _ hleaning tier).1, (hfirst _ hleaning _).2,
      fun _ => (hfirst _ hleaning _).2, fun _ _ => (hfirst _ hleaning _).2⟩
  obtain ⟨tier, htier, hby, hothers⟩ := (classifyCounts_by_priority hlevels hmetrics).2 hnowhere
  have hholds : evaluateLevel oneMedium (leaning.head (by decide)).conditions = .ok true :=
    ok_of_toOption (by decide +kernel)
  have hmissed : ¬ Reaches leaning oneMedium .expert := by
    rintro ⟨rule, hrule, -⟩
    cases hrule
  cases hby.intermediate.mpr ⟨hmissed, leaning.head (by decide), rfl, hholds⟩
  refine ⟨hlevels, hmetrics, hnowhere, htier, hothers crowded ?_
    (hfirst _ (List.Subset.refl _) _).1 fun _ => (hfirst _ (List.Subset.refl _) _).2⟩
  have hlater : Inserted IsInertBehind leaning (leaning ++ crowded.drop 3) :=
    @Inserted.mk _ leaning [] _ (.inl (.shadowed List.mem_cons_self rfl rfl))
  have hlowest : Inserted IsInertBehind (crowded.drop 2) (crowded.drop 1) :=
    @Inserted.mk _ [] (crowded.drop 2) _ (.inr rfl)
  have hinactive : Inserted IsInertBehind (crowded.drop 1) crowded :=
    @Inserted.mk _ [] (crowded.drop 1) _ (.inl (.inactive rfl))
  exact .trans _ _ _ (.rel _ _ hlater) (.trans _ _ _ (.rel _ _ hlowest) (.rel _ _ hinactive))

end RuleSet

end SkillTiers
