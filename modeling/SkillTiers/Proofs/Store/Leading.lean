/-
# The rows that count

Of the active rows of a level, the one with the least place leads, and of several with
that place the one that stands first. Sorting the active rows brings the leading row
of each level before the others of its level (`Row.find?_active`), and a rule set keeps
the first rule of each level; so the rule set that is built from a table has exactly
the rules of its leading rows (`RuleSet.follows_of_build`).
-/

import SkillTiers.Proofs.Rule.Choice
import SkillTiers.Proofs.Store.Frame
import SkillTiers.Proofs.Store.Row
import SkillTiers.Proofs.Sorting

namespace SkillTiers

namespace Row

/-- The row is active and for the level. -/
def IsOf (level : String) (row : Row) : Prop :=
  row.isActive = true ∧ row.level = level

/-- Of the active rows of a level the row has the least place, and it stands before all
others with that place. -/
def Leads (rows : List Row) (level : String) (row : Row) : Prop :=
  row.IsOf level ∧ ∃ front back, rows = front ++ row :: back ∧
    (∀ other ∈ front, other.IsOf level → row.displayOrder < other.displayOrder) ∧
    ∀ other ∈ back, other.IsOf level → row.displayOrder ≤ other.displayOrder

theorem upTo_iff {first second : Row} : upTo first second = true ↔
    first.level < second.level ∨
      (first.level = second.level ∧ first.displayOrder ≤ second.displayOrder) := by
  simp [upTo]

theorem upTo_trans (first second third : Row) (hfirst : upTo first second = true)
    (hsecond : upTo second third = true) : upTo first third = true := by
  rw [upTo_iff] at hfirst hsecond ⊢
  rcases hfirst with hless | ⟨hsame, hplace⟩
  · rcases hsecond with hless' | ⟨hsame', -⟩
    · exact .inl (String.lt_trans hless hless')
    · exact .inl (hsame' ▸ hless)
  · rcases hsecond with hless' | ⟨hsame', hplace'⟩
    · exact .inl (hsame ▸ hless')
    · exact .inr ⟨hsame.trans hsame', hplace.trans hplace'⟩

theorem upTo_total (first second : Row) : (upTo first second || upTo second first) = true := by
  rw [Bool.or_eq_true, upTo_iff, upTo_iff]
  by_cases hless : first.level < second.level
  · exact .inl (.inl hless)
  by_cases hless' : second.level < first.level
  · exact .inr (.inl hless')
  have hsame : first.level = second.level :=
    String.le_antisymm (String.not_lt.mp hless') (String.not_lt.mp hless)
  rcases le_total first.displayOrder second.displayOrder with hplace | hplace
  · exact .inl (.inr ⟨hsame, hplace⟩)
  · exact .inr (.inr ⟨hsame.symm, hplace⟩)

theorem mem_active {rows : List Row} {row : Row} :
    row ∈ active rows ↔ row ∈ rows ∧ row.isActive = true := by
  unfold active
  rw [(sortBy_perm _ _).mem_iff, List.mem_filter]

/-- One more active row in front comes into the order before all others that it is up
to. -/
theorem active_cons (row : Row) (rest : List Row) (hactive : row.isActive = true) :
    ∃ before after, active (row :: rest) = before ++ row :: after ∧
      active rest = before ++ after ∧ (∀ other ∈ before, upTo row other = false) ∧
      ∀ other ∈ after, upTo row other = true := by
  unfold active
  rw [List.filter_cons_of_pos hactive, sortBy_eq_mergeSort upTo_trans upTo_total,
    sortBy_eq_mergeSort upTo_trans upTo_total]
  obtain ⟨before, after, hsorted, hrest, hbefore⟩ :=
    List.mergeSort_cons upTo_trans upTo_total row (rest.filter (·.isActive))
  refine ⟨before, after, hsorted, hrest, fun other hmem => ?_, fun other hmem => ?_⟩
  · exact Bool.eq_false_iff.mpr (by simpa using hbefore other hmem)
  · have hordered := List.pairwise_mergeSort upTo_trans upTo_total
      (row :: rest.filter (·.isActive))
    rw [hsorted, List.pairwise_append] at hordered
    exact (List.pairwise_cons.mp hordered.2.1).1 other hmem

variable {rows rest : List Row} {level : String} {first row : Row}

/-- Rows of one level are ordered by their places. -/
theorem upTo_of_level (hsame : first.level = row.level) :
    upTo first row = true ↔ first.displayOrder ≤ row.displayOrder := by
  rw [upTo_iff, hsame]
  constructor
  · rintro (hless | ⟨-, hplace⟩)
    · exact absurd hless (String.lt_irrefl _)
    · exact hplace
  · exact fun hplace => .inr ⟨rfl, hplace⟩

/-- A leading row still leads behind a row that does not count for the level or has a
greater place. -/
theorem Leads.cons (hleads : Leads rows level row)
    (hfirst : first.IsOf level → row.displayOrder < first.displayOrder) :
    Leads (first :: rows) level row := by
  obtain ⟨hof, front, back, rfl, hfront, hback⟩ := hleads
  exact ⟨hof, first :: front, back, rfl, List.forall_mem_cons.mpr ⟨hfirst, hfront⟩, hback⟩

/-- A row that does not count for the level does not show among the rows of the level. -/
theorem find?_active_cons (hother : ¬ first.IsOf level) :
    (active (first :: rest)).find? (·.level == level) =
      (active rest).find? (·.level == level) := by
  by_cases hactive : first.isActive = true
  · obtain ⟨before, after, hsorted, hrest, -, -⟩ := active_cons first rest hactive
    have hlevel : ¬ (first.level == level) = true :=
      fun hsame => hother ⟨hactive, beq_iff_eq.mp hsame⟩
    rw [hsorted, hrest, List.find?_append, List.find?_append,
      List.find?_cons_of_neg (p := fun row : Row => row.level == level) hlevel]
  · unfold active
    rw [List.filter_cons_of_neg hactive]

/-- Among the active rows in order, the leading row of a level is the first of it. -/
theorem find?_active (rows : List Row) (level : String) :
    (∃ row, (active rows).find? (·.level == level) = some row ∧ Leads rows level row) ∨
      ((active rows).find? (·.level == level) = none ∧ ∀ row ∈ rows, ¬ row.IsOf level) := by
  induction rows with
  | nil =>
      right
      refine ⟨?_, nofun⟩
      rfl
  | cons first rest ih =>
      by_cases hof : first.IsOf level
      · left
        obtain ⟨before, after, hsorted, hrest, hbefore, hafter⟩ := active_cons first rest hof.1
        cases hearlier : before.find? (·.level == level) with
        | some row =>
            -- The row led without the first one, which comes after it in the order.
            have hfound : (active rest).find? (·.level == level) = some row := by
              rw [hrest, List.find?_append, hearlier, Option.some_or]
            have hlevel := List.find?_some (p := fun row : Row => row.level == level) hearlier
            have hlater := hbefore row (List.mem_of_find?_eq_some hearlier)
            rw [Bool.eq_false_iff, ne_eq,
              upTo_of_level (hof.2.trans (beq_iff_eq.mp hlevel).symm), not_le] at hlater
            rcases ih with ⟨lead, hlead, hleads⟩ | ⟨hnone, -⟩
            · cases hfound.symm.trans hlead
              refine ⟨row, ?_, hleads.cons fun _ => hlater⟩
              rw [hsorted, List.find?_append, hearlier, Option.some_or]
            · cases hfound.symm.trans hnone
        | none =>
            refine ⟨first, ?_, hof, [], rest, rfl, nofun, fun other hmem hother => ?_⟩
            · rw [hsorted, List.find?_append, hearlier, Option.none_or]
              exact List.find?_cons_of_pos (p := fun row : Row => row.level == level)
                (beq_iff_eq.mpr hof.2)
            · have hplace : other ∈ before ++ after := hrest ▸ mem_active.mpr ⟨hmem, hother.1⟩
              rcases List.mem_append.mp hplace with hmem | hmem
              · exact absurd (beq_iff_eq.mpr hother.2) (List.find?_eq_none.mp hearlier other hmem)
              · exact (upTo_of_level (hof.2.trans hother.2.symm)).mp (hafter other hmem)
      · rw [find?_active_cons hof]
        rcases ih with ⟨row, hrow, hleads⟩ | ⟨hnone, hothers⟩
        · exact .inl ⟨row, hrow, hleads.cons fun hcounts => absurd hcounts hof⟩
        · exact .inr ⟨hnone, List.forall_mem_cons.mpr ⟨hof, hothers⟩⟩

end Row

namespace RuleSet

/-- The rule set has the rules of the leading rows of a table, each under its level, and
no others, and it has their version. -/
structure Follows (set : RuleSet) (rows : List Row) : Prop where
  leading : ∀ tier : Tier,
    (∃ row stored chosen, Row.Leads rows tier.name row ∧ row.toRule = .ok stored ∧
        set.chosenFor? tier = some chosen ∧ chosen.rule = stored.rule) ∨
      ((∀ row ∈ rows, ¬ row.IsOf tier.name) ∧ set.chosenFor? tier = none)
  once : (set.chosen.map (·.tier)).Nodup
  version : Rule.version (set.chosen.map (·.rule)) = .ok set.version

/-- A row and the rule that it is read as, with its tier. -/
def ReadAs (row : Row) (item : Tier × Rule) : Prop :=
  ∃ stored, row.toRule = .ok stored ∧ item.2 = stored.rule ∧ item.2.tier = .ok item.1 ∧
    row.level = item.1.name

/-- The rules that count come first among those that the active rows are read as. -/
theorem firstOfLevels_table {rows : List Row} {stored : List StoredRule}
    {first : List (Tier × Rule)} (hstored : (Row.active rows).mapM Row.toRule = .ok stored)
    (hfirst : firstOfLevels (stored.map (·.rule)) = .ok first) :
    ∃ items, List.Forall₂ ReadAs (Row.active rows) items ∧ (∀ item ∈ first, item ∈ items) ∧
      ∀ tier, first.find? (·.1 == tier) = items.find? (·.1 == tier) := by
  have hread := forall₂_of_mapM hstored
  have hactive : (stored.map (·.rule)).filter (·.isActive) = stored.map (·.rule) := by
    have hall : (stored.map (·.rule)).map (·.isActive) = (Row.active rows).map (·.isActive) := by
      rw [List.map_map]
      apply mapM_keys Row.isActive (fun stored : StoredRule => stored.rule.isActive) _ hstored
      intro row stored hrule
      obtain ⟨tier, conditions, -, -, rfl⟩ := Row.toRule_ok_iff.mp hrule
      rfl
    rw [List.filter_eq_self]
    intro rule hmem
    have hrule : rule.isActive ∈ (Row.active rows).map (·.isActive) :=
      hall ▸ List.mem_map_of_mem hmem
    obtain ⟨row, hrow, hsame⟩ := List.mem_map.mp hrule
    exact hsame ▸ (Row.mem_active.mp hrow).2
  unfold firstOfLevels at hfirst
  rw [hactive] at hfirst
  cases hitems : (stored.map (·.rule)).mapM fun rule => do return (← rule.tier, rule) with
  | error failure =>
      rw [hitems] at hfirst
      cases hfirst
  | ok items =>
      rw [hitems] at hfirst
      rw [← Except.ok.inj hfirst]
      refine ⟨items, ?_, fun item hmem => mem_of_mem_firsts hmem,
        fun tier => find?_firsts items [] tier⟩
      have htiered := forall₂_of_mapM hitems
      rw [List.forall₂_map_left_iff] at htiered
      refine forall₂_comp ?_ hread htiered
      intro row stored item hrule hitem
      cases htier : stored.rule.tier with
      | error failure =>
          rw [htier] at hitem
          cases hitem
      | ok tier =>
          rw [htier] at hitem
          cases hitem
          refine ⟨stored, hrule, rfl, htier, ?_⟩
          obtain ⟨tier', conditions, hlevel, -, rfl⟩ := Row.toRule_ok_iff.mp hrule
          rw [Rule.tier, Row.saying, Tier.ofLevel_name] at htier
          cases htier
          exact Tier.ofLevel_ok hlevel

/-- The version of rules that are for their tiers. -/
theorem version_of_tiers {items : List (Tier × Rule)}
    (htiers : ∀ item ∈ items, item.2.tier = .ok item.1) :
    Rule.version (items.map (·.2)) = Rule.versionOf items := by
  have htiered : (items.map (·.2)).mapM (fun rule => do return (← rule.tier, rule)) =
      (.ok items : Outcome (List (Tier × Rule))) := by
    induction items with
    | nil => rfl
    | cons item rest ih =>
        obtain ⟨hitem, hrest⟩ := List.forall_mem_cons.mp htiers
        rw [List.map_cons, List.mapM_cons, ih hrest, hitem]
        rfl
  unfold Rule.version
  rw [htiered]
  rfl

/-- The rule set that is built from a table has the rules of the leading rows. -/
theorem follows_of_build {rows : List Row} {stored : List StoredRule} {set : RuleSet}
    (hstored : (Row.active rows).mapM Row.toRule = .ok stored)
    (hbuild : build (stored.map (·.rule)) = .ok set) : set.Follows rows := by
  obtain ⟨hfirst, hversion⟩ := build_counting hbuild
  obtain ⟨items, hread, hmem, hfound⟩ := firstOfLevels_table hstored hfirst
  refine ⟨fun tier => ?_, ?_, ?_⟩
  · have hchosen := hfound tier
    unfold counting at hchosen
    rw [List.find?_map] at hchosen
    change (set.chosenFor? tier).map _ = _ at hchosen
    have hlevel (row : Row) (item : Tier × Rule) (h : ReadAs row item) :
        (row.level == tier.name) = (item.1 == tier) := by
      obtain ⟨-, -, -, -, hsame⟩ := h
      rw [hsame, Bool.eq_iff_iff, beq_iff_eq, beq_iff_eq]
      exact ⟨Tier.name_inj, congrArg _⟩
    rcases find?_forall₂ hlevel hread with ⟨row, item, hrow, hitem, stored, hrule, hsame, -⟩ |
      ⟨hnone, hnone'⟩
    · left
      rw [hitem] at hchosen
      obtain ⟨chosen, hchosenFor, hparts⟩ := Option.map_eq_some_iff.mp hchosen
      rcases Row.find?_active rows tier.name with ⟨lead, hlead, hleads⟩ | ⟨hnone, -⟩
      · rw [hrow] at hlead
        cases hlead
        exact ⟨row, stored, chosen, hleads, hrule, hchosenFor,
          (congrArg Prod.snd hparts).trans hsame⟩
      · rw [hrow] at hnone
        cases hnone
    · right
      rw [hnone'] at hchosen
      rcases Row.find?_active rows tier.name with ⟨lead, hlead, -⟩ | ⟨-, hothers⟩
      · rw [hnone] at hlead
        cases hlead
      · exact ⟨hothers, Option.map_eq_none_iff.mp hchosen⟩
  · have hnodup := nodup_firstOfLevels hfirst
    unfold counting at hnodup
    rw [List.map_map] at hnodup
    exact hnodup
  · have htiers : ∀ item ∈ set.counting, item.2.tier = .ok item.1 := by
      intro item hcounts
      obtain ⟨_, -, _, -, -, htier, -⟩ := exists_of_mem_forall₂ hread (hmem item hcounts)
      exact htier
    have hnamed := version_of_tiers htiers
    rw [hversion, counting, List.map_map] at hnamed
    exact hnamed

end RuleSet

end SkillTiers
