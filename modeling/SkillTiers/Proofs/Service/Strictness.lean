/-
# Strict services

Where the settings are strict, a rule is checked before it is written, and a rule with
issues is refused. What is checked is the rule that the request asks for, in memory;
what is written is the same change made of the row, and it goes through the text of the
conditions. They agree (`Revises.noIssues`), so that in a table without issues none
comes up, whatever happens to the service (`noIssues_throughout`).
-/

import SkillTiers.Proofs.Service.Table
import SkillTiers.Proofs.Store.Soundness

namespace SkillTiers

/-- A change that is made of a row leaves it without issues if the changed rule has none,
whatever parts of the row the change leaves alone. -/
theorem RuleChange.hasNoIssues_updated {change : RuleChange} {row : Row} {stored : StoredRule}
    (hfits : ∀ conditions ∈ change.conditions, ∀ condition ∈ conditions,
      condition.Fits Condition.maxDepth)
    (hstored : row.toRule = .ok stored)
    (hissues : (change.applyTo stored.rule).issues = .ok []) :
    (row.updated change.toUpdate).HasNoIssues := by
  obtain ⟨tier, conditions, htier, hconditions, rfl⟩ := Row.toRule_ok_iff.mp hstored
  have hlevel : (row.updated change.toUpdate).level =
      (change.applyTo (row.saying tier conditions).rule).level :=
    congrArg (change.level.map Tier.name).getD (Tier.ofLevel_ok htier)
  cases hgiven : change.conditions with
  | none =>
      have hsame : (row.updated change.toUpdate).conditions = row.conditions := by
        simp [Row.updated, RuleChange.toUpdate, hgiven]
      refine Row.hasNoIssues_of_rule hlevel rfl
        ((Row.readConditions_congr hsame).trans hconditions) (.inl ?_) hissues
      simp [RuleChange.applyTo, Row.saying, hgiven]
  | some given =>
      have hsame : (change.applyTo (row.saying tier conditions).rule).conditions = given := by
        simp [RuleChange.applyTo, hgiven]
      have hdepth : 2 * Condition.maxDepth ≤ Json.maxRoom := by decide
      refine Row.hasNoIssues_of_text hdepth ?_ hlevel rfl ?_ hissues
      · exact hsame.symm ▸ hfits given hgiven
      · rw [Rule.storedConditions, hsame]
        simp [Row.updated, RuleChange.toUpdate, hgiven]

namespace Service

open Job Renewal

variable {α : Type} {request : Request} {endpoint : Endpoint} {ruleId : String}

/-- No row of the table has issues. -/
def NoIssues (service : Service) : Prop :=
  ∀ row ∈ service.store.rows, row.HasNoIssues

/-! ### Changes -/

/-- Under strict settings a change brings no issues into the table. -/
theorem Revises.noIssues {rows rows' : List Row}
    (hrevises : Revises true request ruleId rows endpoint rows')
    (hrows : ∀ row ∈ rows, row.HasNoIssues) : ∀ row ∈ rows', row.HasNoIssues := by
  have hmore {more : List Row} (hmore : ∀ row ∈ more, row.HasNoIssues) :
      ∀ row ∈ rows ++ more, row.HasNoIssues :=
    List.forall_mem_append.mpr ⟨hrows, hmore⟩
  cases hrevises with
  | @create draft issues row hbody hcheck hrow hnew =>
      obtain ⟨_, _, hread⟩ := valid_of_readBody hbody
      exact hmore (List.forall_mem_singleton.mpr (hrow.hasNoIssues (by decide)
        (RuleDraft.fits_of_read hread) (Rule.noIssues_of_check hcheck)))
  | @update change issues row stored instant hbody hfound hstored hcheck =>
      intro written hmem
      rcases Row.mem_modify hmem with hold | ⟨old, hold, rfl⟩
      · exact hrows written hold
      cases hfound.symm.trans hold
      obtain ⟨_, _, hread⟩ := valid_of_readBody hbody
      have hupdated := RuleChange.hasNoIssues_updated (RuleChange.fits_of_read hread) hstored
        (Rule.noIssues_of_check hcheck)
      exact hupdated.congr rfl rfl rfl
  | delete => exact fun row hmem => hrows row (List.mem_of_mem_filter hmem)
  | reorder hbody hplaces => exact hplaces.hasNoIssues hrows
  | seed number hempty hseeded => exact hmore (Seed.hasNoIssues_of_mem hseeded)

/-! ### Histories -/

variable {now left : Service}

/-- The settings are as they were, and where they are strict, a table without issues is
left without issues. -/
structure KeepsStrict (service left : Service) : Prop where
  config : left.config = service.config
  noIssues : service.config.strictRules = true → NoIssues service → NoIssues left

theorem KeepsAll.keepsStrict {service left : Service}
    (hkeeps : KeepsAll Row.HasNoIssues service left) : KeepsStrict service left :=
  ⟨hkeeps.config, fun _ => hkeeps.rows⟩

theorem keepsStrict_refl (service : Service) : KeepsStrict service service :=
  ⟨rfl, fun _ hrows => hrows⟩

theorem KeepsStrict.trans {first second third : Service} (hfirst : KeepsStrict first second)
    (hsecond : KeepsStrict second third) : KeepsStrict first third where
  config := hsecond.config.trans hfirst.config
  noIssues := fun hstrict hrows =>
    hsecond.noIssues (by rw [hfirst.config]; exact hstrict) (hfirst.noIssues hstrict hrows)

/-- A request brings no issues into the table. -/
theorem keepsStrict_of_answer {outcome : Outcome Response}
    (hcourse : Course Weather (answer request) now outcome left) : KeepsStrict now left := by
  have hsettings : KeepsAll (fun _ => True) now left :=
    keepsAll_of_answer hcourse fun _ _ _ _ _ _ _ _ => trivial
  refine ⟨hsettings.config, fun hstrict => ?_⟩
  have hkeeps : KeepsAll Row.HasNoIssues now left := by
    apply keepsAll_of_answer hcourse
    rw [hstrict]
    exact fun _ _ _ _ hrevises => hrevises.noIssues
  exact hkeeps.rows

/-- No event brings issues into the table of a strict service. -/
theorem Happens.keepsStrict {event : Event} (hevent : Happens now left event) :
    KeepsStrict now left := by
  cases hevent with
  | start hcourse =>
      exact (keepsAll_of_start (fun _ _ _ => Seed.hasNoIssues_of_mem) hcourse).keepsStrict
  | load hcourse => exact (steady_of_course hcourse (steady_loadRules _)).keepsAll.keepsStrict
  | request hcourse => exact keepsStrict_of_answer hcourse

/-- In a history of a service with strict settings whose rows have no issues at first,
no row ever has: each can be read as a rule without issues at every moment. -/
theorem noIssues_throughout {first : Service} {moments : List Service}
    (hhistory : History first moments) (hstrict : first.config.strictRules = true)
    (hfirst : NoIssues first) : ∀ moment ∈ moments, NoIssues moment := by
  have hkeeps : ∀ moment ∈ moments, KeepsStrict first moment := by
    induction hhistory with
    | made =>
        intro moment hmem
        rw [List.mem_singleton.mp hmem]
        exact keepsStrict_refl first
    | next hhistory hevent ih =>
        intro moment hmem
        rcases List.mem_cons.mp hmem with rfl | hold
        · exact (ih _ List.mem_cons_self).trans hevent.keepsStrict
        · exact ih moment hold
  exact fun moment hmem => (hkeeps moment hmem).noIssues hstrict hfirst

/-- A rule that does not count. -/
def dormantRule : Rule :=
  { Seed.rule "dormant" .expert with isActive := false }

/-- A service with strict settings and that rule in its table. -/
def strict : Service :=
  let service := plainWith .empty [.ofRule "dormant" .expert dormantRule none 0] []
  { service with config := { service.config with strictRules := true } }

/-- A rule is created, and neither row has issues. -/
theorem noIssues_throughout_creation :
    NoIssues strict ∧ History strict [((answer creation).run strict).2, strict] ∧
      ((answer creation).run strict).2.store.rows.length = 2 ∧
      NoIssues ((answer creation).run strict).2 := by
  have hfirst : NoIssues strict := by
    have hrow : Row.Inserts none dormantRule (.ofRule "dormant" .expert dormantRule none 0) :=
      .mk 0 rfl fun _ => rfl
    have hissues : dormantRule.issues = .ok [] := ok_of_toOption (by decide +kernel)
    exact List.forall_mem_singleton.mpr
      (hrow.hasNoIssues (by decide) (Seed.fits_conditions .expert) hissues)
  have hhistory : History strict [((answer creation).run strict).2, strict] :=
    .next .made (.request (course_run weather_refl _ _))
  refine ⟨hfirst, hhistory, by decide +kernel, ?_⟩
  exact noIssues_throughout hhistory rfl hfirst _ List.mem_cons_self

end Service

end SkillTiers
