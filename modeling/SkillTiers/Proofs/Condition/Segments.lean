/-
# The reading of a level by segments

The conditions of a level are cut behind each one that names no link or the alternative,
and nowhere else. There is one way to cut a list so (`Condition.areSegments_iff`), with one
segment more than there are cuts before the last condition (`Condition.groups_partition`).
The level holds if and only if some segment holds throughout
(`Condition.evaluateLevel_by_segments`). So a level is the alternative of its parts where
it is cut, and neither the last link, nor the links of sub-conditions, nor anything below
the sub-conditions has an effect.
-/

import SkillTiers.Proofs.Condition.Stored
import SkillTiers.Proofs.Condition.Totality

namespace SkillTiers

namespace Condition

/-! ### Cuts and segments -/

/-- The list is cut behind the condition, since it names no link or the alternative. Any
other text, known or not, does not cut. -/
def Cuts (condition : Condition) : Prop :=
  condition.combineWith = none ∨ condition.combineWith = some "" ∨
    condition.combineWith = some "OR"

theorem closesGroup_iff_cuts (condition : Condition) :
    condition.closesGroup = true ↔ condition.Cuts := by
  unfold closesGroup link? Cuts alternative
  cases condition.combineWith with
  | none => simp [nonempty?]
  | some link =>
      by_cases hempty : link = ""
      · simp [nonempty?, hempty]
      · simp [nonempty?, hempty]

/-- The list ends where it is cut, or is empty. -/
def EndsInCut (conditions : List Condition) : Prop :=
  ∀ condition ∈ conditions.getLast?, condition.Cuts

/-- The segments of a list that is cut wherever a condition cuts, and at its end. -/
structure AreSegments (conditions : List Condition) (segments : List (List Condition)) :
    Prop where
  /-- Nothing is lost, and the order stays. -/
  flatten : segments.flatten = conditions
  nonempty : ∀ segment ∈ segments, segment ≠ []
  /-- No segment goes on behind a cut. -/
  uncut : ∀ segment ∈ segments, ∀ condition ∈ segment.dropLast, ¬ condition.Cuts
  /-- Every segment but the last ends where the list is cut. -/
  cut : ∀ segment ∈ segments.dropLast, EndsInCut segment

theorem endsInCut_cons {condition : Condition} {rest : List Condition} (hrest : rest ≠ []) :
    EndsInCut (condition :: rest) ↔ EndsInCut rest := by
  obtain ⟨next, others, rfl⟩ := List.exists_cons_of_ne_nil hrest
  unfold EndsInCut
  rw [List.getLast?_cons_cons]

theorem groups_ne_nil {conditions : List Condition} (hne : conditions ≠ []) :
    groups conditions ≠ [] := by
  intro hnone
  have hflatten := flatten_groups conditions
  rw [hnone] at hflatten
  exact hne hflatten.symm

theorem groups_cons_of_cuts {condition : Condition} (hcuts : condition.Cuts)
    (rest : List Condition) : groups (condition :: rest) = [condition] :: groups rest := by
  rw [groups, if_pos ((closesGroup_iff_cuts condition).mpr hcuts)]

theorem groups_cons_of_not_cuts {condition : Condition} (hcuts : ¬ condition.Cuts)
    {rest group : List Condition} {others : List (List Condition)}
    (hrest : groups rest = group :: others) :
    groups (condition :: rest) = (condition :: group) :: others := by
  rw [groups, if_neg (mt (closesGroup_iff_cuts condition).mp hcuts), hrest]

/-- One condition is a group, whatever its link. -/
theorem groups_singleton (condition : Condition) : groups [condition] = [[condition]] := by
  rw [groups]
  split <;> rfl

/-- A list that is cut at its end at most is one group. -/
theorem groups_of_uncut {segment : List Condition} (hne : segment ≠ [])
    (huncut : ∀ condition ∈ segment.dropLast, ¬ condition.Cuts) :
    groups segment = [segment] := by
  induction segment with
  | nil => exact absurd rfl hne
  | cons condition rest ih =>
      cases rest with
      | nil => exact groups_singleton condition
      | cons next others =>
          rw [List.dropLast_cons_cons, List.forall_mem_cons] at huncut
          exact groups_cons_of_not_cuts huncut.1 (ih (List.cons_ne_nil _ _) huncut.2)

/-- Where a list is cut, its groups are those of both parts. -/
theorem groups_append {first : List Condition} (hends : EndsInCut first)
    (second : List Condition) : groups (first ++ second) = groups first ++ groups second := by
  induction first with
  | nil => rfl
  | cons condition rest ih =>
      cases rest with
      | nil =>
          rw [groups_singleton]
          exact groups_cons_of_cuts (hends condition rfl) second
      | cons next others =>
          have hrest : next :: others ≠ [] := List.cons_ne_nil _ _
          have hboth := ih ((endsInCut_cons hrest).mp hends)
          by_cases hcuts : condition.Cuts
          · rw [List.cons_append, groups_cons_of_cuts hcuts, groups_cons_of_cuts hcuts, hboth,
              List.cons_append]
          · obtain ⟨group, behind, hgroups⟩ :=
              List.exists_cons_of_ne_nil (groups_ne_nil hrest)
            rw [hgroups] at hboth
            rw [List.cons_append, groups_cons_of_not_cuts hcuts hboth,
              groups_cons_of_not_cuts hcuts hgroups]
            rfl

/-- The groups are segments: nothing in a group but its end cuts. -/
theorem areSegments_groups (conditions : List Condition) :
    AreSegments conditions (groups conditions) := by
  induction conditions with
  | nil => exact ⟨rfl, nofun, nofun, nofun⟩
  | cons condition rest ih =>
      by_cases hcuts : condition.Cuts
      · rw [groups_cons_of_cuts hcuts]
        refine ⟨congrArg (condition :: ·) ih.flatten, ?_, ?_, ?_⟩
        · exact List.forall_mem_cons.mpr ⟨List.cons_ne_nil _ _, ih.nonempty⟩
        · exact List.forall_mem_cons.mpr ⟨nofun, ih.uncut⟩
        · cases hrest : groups rest with
          | nil => exact nofun
          | cons group others =>
              rw [List.dropLast_cons_cons, ← hrest]
              refine List.forall_mem_cons.mpr ⟨?_, ih.cut⟩
              rintro _ ⟨⟩
              exact hcuts
      · cases hrest : groups rest with
        | nil =>
            have hnone : rest = [] := not_imp_comm.mp groups_ne_nil (not_not.mpr hrest)
            rw [hnone, groups_singleton]
            refine ⟨rfl, ?_, ?_, nofun⟩
            · simp
            · simp
        | cons group others =>
            rw [groups_cons_of_not_cuts hcuts hrest]
            rw [hrest] at ih
            have hgroup := ih.nonempty group List.mem_cons_self
            refine ⟨congrArg (condition :: ·) ih.flatten, ?_, ?_, ?_⟩
            · exact List.forall_mem_cons.mpr ⟨List.cons_ne_nil _ _,
                (List.forall_mem_cons.mp ih.nonempty).2⟩
            · refine List.forall_mem_cons.mpr ⟨?_, (List.forall_mem_cons.mp ih.uncut).2⟩
              rw [List.dropLast_cons_of_ne_nil hgroup]
              exact List.forall_mem_cons.mpr ⟨hcuts, ih.uncut group List.mem_cons_self⟩
            · cases others with
              | nil => exact nofun
              | cons next behind =>
                  obtain ⟨hfirst, hlater⟩ := List.forall_mem_cons.mp ih.cut
                  exact List.forall_mem_cons.mpr ⟨(endsInCut_cons hgroup).mpr hfirst, hlater⟩

/-- A list is cut into its groups, and there is no other way to cut it. -/
theorem areSegments_iff {conditions : List Condition} {segments : List (List Condition)} :
    AreSegments conditions segments ↔ segments = groups conditions := by
  constructor
  · intro hsegments
    induction segments generalizing conditions with
    | nil =>
        rw [← hsegments.flatten]
        rfl
    | cons segment others ih =>
        obtain ⟨hne, hnonempty⟩ := List.forall_mem_cons.mp hsegments.nonempty
        obtain ⟨hwhole, huncut⟩ := List.forall_mem_cons.mp hsegments.uncut
        have hgroup := groups_of_uncut hne hwhole
        rw [← hsegments.flatten, List.flatten_cons]
        cases others with
        | nil => rw [List.flatten_nil, List.append_nil, hgroup]
        | cons next behind =>
            obtain ⟨hends, hcut⟩ := List.forall_mem_cons.mp hsegments.cut
            rw [groups_append hends, hgroup, ← ih ⟨rfl, hnonempty, huncut, hcut⟩]
            rfl
  · rintro rfl
    exact areSegments_groups conditions

/-- Before the last condition each one that closes its group adds a group. -/
theorem length_groups_of_ne_nil {conditions : List Condition} (hne : conditions ≠ []) :
    (groups conditions).length = conditions.dropLast.countP closesGroup + 1 := by
  induction conditions with
  | nil => exact absurd rfl hne
  | cons condition rest ih =>
      cases rest with
      | nil =>
          rw [groups_singleton]
          rfl
      | cons next others =>
          have hrest : next :: others ≠ [] := List.cons_ne_nil _ _
          have hlength := ih hrest
          rw [List.dropLast_cons_cons]
          by_cases hcuts : condition.Cuts
          · rw [groups_cons_of_cuts hcuts, List.length_cons, hlength,
              List.countP_cons_of_pos ((closesGroup_iff_cuts condition).mpr hcuts)]
          · obtain ⟨group, behind, hgroups⟩ :=
              List.exists_cons_of_ne_nil (groups_ne_nil hrest)
            rw [hgroups] at hlength
            rw [groups_cons_of_not_cuts hcuts hgroups,
              List.countP_cons_of_neg (mt (closesGroup_iff_cuts condition).mp hcuts), ← hlength]
            rfl

/-- The groups are the one way to cut a list behind each condition that closes its group, and
behind the last one whatever its link. There is one group more than there are conditions
before the last that close theirs; a list without conditions has none. -/
theorem groups_partition (conditions : List Condition) :
    (∀ segments, AreSegments conditions segments ↔ segments = groups conditions) ∧
      (∀ condition : Condition, condition.Cuts ↔ condition.closesGroup = true) ∧
      (groups conditions).length =
        if conditions = [] then 0 else conditions.dropLast.countP closesGroup + 1 := by
  refine ⟨fun _ => areSegments_iff, fun condition => (closesGroup_iff_cuts condition).symm, ?_⟩
  split
  · rename_i hnone
    rw [hnone]
    rfl
  · rename_i hne
    exact length_groups_of_ne_nil hne

end Condition

/-! ### Levels are read by their groups -/

section Evaluation

variable {metrics : SkillMetrics}

/-- Whether a condition holds, with all that must hold along with it. -/
def Condition.evaluateThroughout (metrics : SkillMetrics) (condition : Condition) :
    Outcome Bool :=
  (condition :: condition.subConditions).allM (·.evaluate metrics)

/-- Whether all conditions of a group hold. -/
def Condition.evaluateGroup (metrics : SkillMetrics) (group : List Condition) : Outcome Bool :=
  group.allM (·.evaluateThroughout metrics)

theorem Condition.evaluate_of_comparison {condition : Condition} {comparison : Comparison}
    (hcomparison : Comparison.ofCondition condition = .ok comparison) :
    condition.evaluate metrics = comparison.evaluate metrics := by
  unfold Condition.evaluate
  rw [hcomparison]
  rfl

/-- A compiled condition holds where the condition does, with its sub-conditions. -/
theorem GroupedComparison.evaluate_eq {condition : Condition} {grouped : GroupedComparison}
    (hgrouped : GroupedComparison.ofCondition condition = .ok grouped) :
    condition.evaluateThroughout metrics = grouped.evaluate metrics := by
  obtain ⟨comparison, along, hcomparison, halong, rfl⟩ := map₂_ok hgrouped
  have hsubs : condition.subConditions.allM (·.evaluate metrics) =
      along.allM (·.evaluate metrics) :=
    allM_forall₂ ((forall₂_of_mapM halong).imp fun _ _ => Condition.evaluate_of_comparison)
  unfold Condition.evaluateThroughout GroupedComparison.evaluate
  rw [List.allM, Condition.evaluate_of_comparison hcomparison, hsubs]
  congr 1
  funext holds
  cases holds <;> rfl

/-- A compiled group holds where all conditions of the group do. -/
theorem AndGroup.evaluate_eq {conditions : List Condition} {group : AndGroup}
    (hgroup : (do return AndGroup.mk (← conditions.mapM GroupedComparison.ofCondition)) =
      (.ok group : Outcome AndGroup)) :
    Condition.evaluateGroup metrics conditions = group.evaluate metrics := by
  obtain ⟨members, hmembers, rfl⟩ := map_ok hgroup
  exact allM_forall₂ ((forall₂_of_mapM hmembers).imp fun _ _ => GroupedComparison.evaluate_eq)

/-- In a group that holds every comparison does, those of sub-conditions too. -/
theorem Condition.forall_compared_of_evaluateGroup {group : List Condition}
    (hholds : Condition.evaluateGroup metrics group = .ok true) :
    ∀ condition ∈ Condition.compared group, condition.evaluate metrics = .ok true :=
  List.forall_mem_flatMap.mpr fun condition hmem =>
    forall_of_allM (forall_of_allM hholds condition hmem)

/-- A level whose conditions compile is worked out group by group. -/
theorem evaluateLevel_eq {conditions : List Condition}
    (hcompile : IsResult (Expression.compile conditions)) :
    evaluateLevel metrics conditions =
      (Condition.groups conditions).anyM (Condition.evaluateGroup metrics) := by
  obtain ⟨expression, hcompile⟩ := hcompile
  obtain ⟨groups, hgroups, rfl⟩ := map_ok hcompile
  unfold evaluateLevel
  rw [hcompile]
  exact (anyM_forall₂ ((forall₂_of_mapM hgroups).imp fun _ _ => AndGroup.evaluate_eq)).symm

end Evaluation

namespace Condition

variable {metrics : SkillMetrics}

theorem isResult_compile_of_evaluate {conditions : List Condition}
    (hanswers : ∀ condition ∈ compared conditions, IsResult (condition.evaluate metrics)) :
    IsResult (Expression.compile conditions) := by
  refine (Expression.isResult_compile conditions).mpr fun condition hmem => ?_
  obtain ⟨holds, hholds⟩ := hanswers condition hmem
  apply (isResult_comparison condition).mp
  unfold Condition.evaluate at hholds
  cases hcomparison : Comparison.ofCondition condition with
  | ok comparison => exact isResult_ok comparison
  | error failure =>
      rw [hcomparison] at hholds
      cases hholds

/-- Where each comparison has an answer, the level holds if and only if all comparisons of
some group do. -/
theorem evaluateLevel_iff {conditions : List Condition}
    (hanswers : ∀ condition ∈ compared conditions, IsResult (condition.evaluate metrics)) :
    ∃ holds, evaluateLevel metrics conditions = .ok holds ∧
      (holds = true ↔ ∃ group ∈ groups conditions,
        ∀ condition ∈ compared group, condition.evaluate metrics = .ok true) := by
  have hgroup (group : List Condition) (hmem : group ∈ groups conditions) (condition : Condition)
      (hcondition : condition ∈ group) (other : Condition)
      (hother : other ∈ condition :: condition.subConditions) :
      IsResult (other.evaluate metrics) := by
    refine hanswers other (List.mem_flatMap.mpr ⟨condition, ?_, hother⟩)
    rw [← flatten_groups conditions]
    exact List.mem_flatten.mpr ⟨group, hmem, hcondition⟩
  rw [evaluateLevel_eq (isResult_compile_of_evaluate hanswers)]
  obtain ⟨holds, hholds, hiff⟩ := anyM_ok fun group hmem =>
    isResult_allM fun condition hcondition => isResult_allM (hgroup group hmem condition hcondition)
  refine ⟨holds, hholds, hiff.trans (exists_congr fun group => and_congr_right fun hmem => ?_)⟩
  obtain ⟨passes, hpasses, hpassesIff⟩ := allM_ok fun condition hcondition =>
    isResult_allM (hgroup group hmem condition hcondition)
  rw [hpasses, Except.ok.injEq, hpassesIff, compared, List.forall_mem_flatMap]
  refine forall₂_congr fun condition hcondition => ?_
  obtain ⟨along, halong, halongIff⟩ := allM_ok (hgroup group hmem condition hcondition)
  rw [halong, Except.ok.injEq, halongIff]

/-! ### What is not read -/

/-- The two conditions make the same comparison of their own. -/
structure SameComparison (first second : Condition) : Prop where
  metric : first.metric = second.metric
  operator : first.operator = second.operator
  value : first.value = second.value
  metric2 : first.metric2 = second.metric2

/-- The two conditions make the same comparison, and so do their sub-conditions, one by one.
Nothing is said of links, of remarks and of what lies below the sub-conditions. -/
structure SameReading (first second : Condition) : Prop where
  own : SameComparison first second
  subConditions : List.Forall₂ SameComparison first.subConditions second.subConditions

/-- The conditions of two levels read the same, one by one, and are linked in the same way,
except for the last ones, whose links may be any. -/
inductive SameLevel : List Condition → List Condition → Prop where
  | nil : SameLevel [] []
  | last {first second : Condition} (hreading : SameReading first second) :
      SameLevel [first] [second]
  | cons {first second : Condition} {rest rest' : List Condition}
      (hreading : SameReading first second) (hlink : first.combineWith = second.combineWith)
      (hrest : SameLevel rest rest') : SameLevel (first :: rest) (second :: rest')

theorem SameComparison.comparison {first second : Condition}
    (hsame : SameComparison first second) :
    Comparison.ofCondition first = Comparison.ofCondition second := by
  unfold Comparison.ofCondition Comparison.rightSide otherMetric?
  rw [hsame.metric, hsame.operator, hsame.value, hsame.metric2]

theorem SameReading.grouped {first second : Condition} (hsame : SameReading first second) :
    GroupedComparison.ofCondition first = GroupedComparison.ofCondition second := by
  have halong : first.subConditions.mapM Comparison.ofCondition =
      second.subConditions.mapM Comparison.ofCondition := by
    refine mapM_forall₂ ?_ hsame.subConditions
    exact fun _ _ => SameComparison.comparison
  unfold GroupedComparison.ofCondition
  rw [hsame.own.comparison, halong]

theorem SameLevel.groups {first second : List Condition} (hsame : SameLevel first second) :
    List.Forall₂ (List.Forall₂ SameReading) (groups first) (groups second) := by
  induction hsame with
  | nil => exact .nil
  | last hreading =>
      rw [groups_singleton, groups_singleton]
      exact .cons (.cons hreading .nil) .nil
  | cons hreading hlink _ ih =>
      refine groups_cons_forall₂ hreading ?_ ih
      rw [closesGroup, closesGroup, link?, link?, hlink]

/-- Levels that read the same have the same outcome. -/
theorem SameLevel.evaluateLevel {first second : List Condition}
    (hsame : SameLevel first second) (metrics : SkillMetrics) :
    evaluateLevel metrics first = evaluateLevel metrics second := by
  unfold SkillTiers.evaluateLevel
  rw [Expression.compile_of_groups (fun _ _ => SameReading.grouped) hsame.groups]

/-! ### The reading of a level -/

/-- Where every comparison has an answer, a level holds if and only if all comparisons of
some segment hold, those of its conditions and of their sub-conditions. So a level is the
alternative of its parts wherever it is cut, the links of the last condition and of
sub-conditions have no effect, nor has anything below the sub-conditions, and a level without
conditions does not hold. -/
theorem evaluateLevel_by_segments {conditions : List Condition}
    (hanswers : ∀ condition ∈ compared conditions, IsResult (condition.evaluate metrics)) :
    (∃! segments, AreSegments conditions segments) ∧
    (∃ holds, evaluateLevel metrics conditions = .ok holds ∧
      ∀ segments, AreSegments conditions segments →
        (holds = true ↔ ∃ segment ∈ segments, ∀ condition ∈ segment,
          condition.evaluate metrics = .ok true ∧
            ∀ sub ∈ condition.subConditions, sub.evaluate metrics = .ok true)) ∧
    (∀ first second, conditions = first ++ second → EndsInCut first →
      ∃ holds holds', evaluateLevel metrics first = .ok holds ∧
        evaluateLevel metrics second = .ok holds' ∧
          evaluateLevel metrics conditions = .ok (holds || holds')) ∧
    (∀ others, SameLevel conditions others →
      evaluateLevel metrics others = evaluateLevel metrics conditions) ∧
    evaluateLevel metrics [] = .ok false := by
  obtain ⟨holds, hholds, hiff⟩ := evaluateLevel_iff hanswers
  refine ⟨⟨groups conditions, areSegments_groups conditions, fun _ => areSegments_iff.mp⟩,
    ⟨holds, hholds, fun segments hsegments => ?_⟩, ?_,
    fun others hsame => (hsame.evaluateLevel metrics).symm, rfl⟩
  · rw [areSegments_iff.mp hsegments, hiff]
    simp only [compared, List.forall_mem_flatMap, List.forall_mem_cons]
  · rintro first second rfl hends
    rw [compared, List.flatMap_append, List.forall_mem_append] at hanswers
    obtain ⟨passes, hpasses, hfirst⟩ := evaluateLevel_iff hanswers.1
    obtain ⟨passes', hpasses', hsecond⟩ := evaluateLevel_iff hanswers.2
    refine ⟨passes, passes', hpasses, hpasses', ?_⟩
    rw [hholds, Except.ok.injEq, Bool.eq_iff_iff, Bool.or_eq_true, hiff, hfirst, hsecond,
      groups_append hends]
    simp only [List.mem_append, or_and_right, exists_or]

/-- A comparison of two metrics. -/
def comparing (metric sign other : String) (link : Option String)
    (subConditions : List Condition) : Condition :=
  ⟨some metric, some sign, .null, some other, link, subConditions, none⟩

/-- One segment: its first link is unknown, and does not cut. The link of the sub-condition
would, and is not read. -/
def evenCounts : List Condition :=
  [comparing "highCount" ">=" "lowCount" (some "XOR")
    [comparing "lowCount" "=" "mediumCount" (some "OR") []],
   comparing "highCount" "<=" "lowCount" (some "AND") []]

/-- The metrics where no subskill is rated. -/
def unrated : SkillMetrics :=
  ⟨0, 0, 0, 0, .zero, .zero, .zero⟩

/-- A level of one segment is read as a conjunction. -/
theorem evaluateLevel_by_segments_unrated :
    (∀ condition ∈ compared evenCounts, IsResult (condition.evaluate unrated)) ∧
      AreSegments evenCounts [evenCounts] ∧
        ∃ holds, evaluateLevel unrated evenCounts = .ok holds ∧
          (holds = true ↔ ∃ segment ∈ [evenCounts], ∀ condition ∈ segment,
            condition.evaluate unrated = .ok true ∧
              ∀ sub ∈ condition.subConditions, sub.evaluate unrated = .ok true) := by
  have hanswers : ∀ condition ∈ compared evenCounts, IsResult (condition.evaluate unrated) := by
    intro condition hmem
    have hholds : (condition.evaluate unrated).toOption = some true := by
      revert condition
      decide +kernel
    exact ⟨true, ok_of_toOption hholds⟩
  have hsegments : AreSegments evenCounts [evenCounts] :=
    areSegments_iff.mpr (by rfl)
  obtain ⟨-, ⟨holds, hholds, hiff⟩, -⟩ := evaluateLevel_by_segments hanswers
  exact ⟨hanswers, hsegments, holds, hholds, hiff _ hsegments⟩

end Condition

end SkillTiers
