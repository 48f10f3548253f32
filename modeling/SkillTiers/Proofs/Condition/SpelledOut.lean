/-
# Conditions that are spelled out

A condition is spelled out where its evaluation leans on nothing: its metrics are known,
its operator is one of the five, its right side is a known metric or a number, and its link
is one of the two. A list of conditions is without issues if and only if every condition
and every sub-condition is spelled out, and no sub-condition has sub-conditions of its own
(`Condition.issues_eq_nil`). A list whose issues cannot be told, since a threshold is beyond
the range of doubles, is not spelled out either.
-/

import SkillTiers.Condition.Issue
import SkillTiers.Proofs.Outcome

namespace SkillTiers

/-- A relation is found under its sign, and under no other text. -/
theorem Relation.ofSign?_eq_some {text : Option String} {relation : Relation} :
    ofSign? text = some relation ↔ text = some relation.sign := by
  constructor
  · intro hfound
    unfold ofSign? at hfound
    have hsign := List.find?_some hfound
    exact eq_of_beq hsign
  · rintro rfl
    cases relation <;> decide

namespace Condition

/-- The condition leans on no lenient reading. -/
structure SpelledOut (condition : Condition) : Prop where
  metric : ∀ term ∈ (Operand.parse (condition.metric.getD "")).terms, term.isKnown = true
  operator : ∃ relation : Relation, condition.operator = some relation.sign
  /-- The right side is a single metric that is known or, where none is named, a threshold
  that is there and a number. -/
  right : (∃ name, condition.otherMetric? = some name ∧ (Term.parse name).isKnown = true) ∨
    (condition.otherMetric? = none ∧ ∃ value,
      Threshold.ofJson condition.value = .ok (.given value) ∧ value.isNaN = false)
  link : ∀ link ∈ condition.link?, link = conjunction ∨ link = alternative

/-- The sub-condition is spelled out, and nothing below it is ignored. -/
structure SpelledOutBelow (sub : Condition) : Prop where
  own : sub.SpelledOut
  subConditions : sub.subConditions = []

/-- The condition is spelled out with its sub-conditions. -/
structure SpelledOutThroughout (condition : Condition) : Prop where
  own : condition.SpelledOut
  subConditions : ∀ sub ∈ condition.subConditions, sub.SpelledOutBelow

/-! ### The issues of a condition -/

theorem termIssues_eq_nil {path : String} {operand : Operand} :
    termIssues path operand = [] ↔ ∀ term ∈ operand.terms, term.isKnown = true := by
  simp [termIssues, Operand.unknown]

theorem operatorIssues_eq_nil {path : String} {operator : Option String} :
    operatorIssues path operator = [] ↔
      ∃ relation : Relation, operator = some relation.sign := by
  simp only [← Relation.ofSign?_eq_some]
  unfold operatorIssues
  cases Relation.ofSign? operator with
  | none => simp
  | some relation => simp

theorem linkIssues_eq_nil {path : String} {condition : Condition} :
    linkIssues path condition = [] ↔
      ∀ link ∈ condition.link?, link = conjunction ∨ link = alternative := by
  unfold linkIssues
  cases condition.link? with
  | none => simp
  | some link => simp [Decidable.or_iff_not_imp_left]

/-- A right side is read, and has no issues, if and only if it is spelled out. -/
theorem rightIssues_eq_nil {path : String} {condition : Condition} :
    (∃ right, Comparison.rightSide condition = .ok right ∧
        rightIssues path condition right = []) ↔
      (∃ name, condition.otherMetric? = some name ∧ (Term.parse name).isKnown = true) ∨
        (condition.otherMetric? = none ∧ ∃ value,
          Threshold.ofJson condition.value = .ok (.given value) ∧ value.isNaN = false) := by
  cases hother : condition.otherMetric? with
  | some name =>
      rw [Comparison.rightSide_of_metric hother]
      simp [rightIssues, termIssues_eq_nil, Operand.single]
  | none =>
      rw [Comparison.rightSide_of_threshold hother]
      cases Threshold.ofJson condition.value with
      | error failure =>
          refine iff_of_false ?_ (by simp)
          rintro ⟨right, hright, -⟩
          cases hright
      | ok threshold =>
          cases threshold with
          | absent =>
              refine iff_of_false ?_ (by simp)
              rintro ⟨right, hright, hnone⟩
              cases hright
              cases hnone
          | given value =>
              refine Iff.trans (b := value.isNaN = false) ⟨?_, fun hnumber => ?_⟩ (by simp)
              · rintro ⟨right, hright, hnone⟩
                cases hright
                cases hvalue : value.isNaN with
                | false => rfl
                | true => simp [rightIssues, hvalue] at hnone
              · exact ⟨_, rfl, by simp [rightIssues, hnumber]⟩

/-- A condition has no issues of its own if and only if it is spelled out. -/
theorem ownIssues_eq_nil {path : String} {condition : Condition} :
    ownIssues path condition = .ok [] ↔ condition.SpelledOut := by
  have hparts : ownIssues path condition = .ok [] ↔
      ∃ right, Comparison.rightSide condition = .ok right ∧
        termIssues (path ++ ".metric") (.parse (condition.metric.getD "")) = [] ∧
        operatorIssues (path ++ ".operator") condition.operator = [] ∧
        rightIssues path condition right = [] ∧
        linkIssues (path ++ ".combineWith") condition = [] := by
    unfold ownIssues Comparison.ofCondition
    cases Comparison.rightSide condition with
    | error failure =>
        refine iff_of_false (fun h => ?_) ?_
        · cases h
        · rintro ⟨right, hright, -⟩
          cases hright
    | ok right =>
        simp [bind, Except.bind, pure, Except.pure]
  rw [hparts]
  constructor
  · rintro ⟨right, hright, hmetric, hoperator, hnone, hlink⟩
    exact ⟨termIssues_eq_nil.mp hmetric, operatorIssues_eq_nil.mp hoperator,
      rightIssues_eq_nil.mp ⟨right, hright, hnone⟩, linkIssues_eq_nil.mp hlink⟩
  · intro hspelled
    obtain ⟨right, hright, hnone⟩ := rightIssues_eq_nil.mpr hspelled.right
    exact ⟨right, hright, termIssues_eq_nil.mpr hspelled.metric,
      operatorIssues_eq_nil.mpr hspelled.operator, hnone, linkIssues_eq_nil.mpr hspelled.link⟩

/-! ### The issues of lists -/

/-- Two lists of issues that are told one after the other are empty if both are. -/
theorem append_eq_ok_nil {first second : Outcome (List Issue)} :
    (do return (← first) ++ (← second)) = (.ok [] : Outcome (List Issue)) ↔
      first = .ok [] ∧ second = .ok [] := by
  constructor
  · intro hboth
    obtain ⟨issues, issues', hfirst, hsecond, hnone⟩ := map₂_ok hboth
    rw [hfirst, hsecond, (List.append_eq_nil_iff.mp hnone).1, (List.append_eq_nil_iff.mp hnone).2]
    exact ⟨rfl, rfl⟩
  · rintro ⟨rfl, rfl⟩
    rfl

/-- Items that are inspected one after the other have no issues if none of them has. -/
theorem issuesFrom_eq_nil {inspect : String → Condition → Outcome (List Issue)}
    {clean : Condition → Prop}
    (hclean : ∀ path condition, inspect path condition = .ok [] ↔ clean condition)
    {path : String} {index : Nat} {conditions : List Condition} :
    issuesFrom inspect path index conditions = .ok [] ↔
      ∀ condition ∈ conditions, clean condition := by
  induction conditions generalizing index with
  | nil => simp [issuesFrom]
  | cons condition rest ih =>
      rw [issuesFrom, append_eq_ok_nil, hclean, ih, List.forall_mem_cons]

theorem subIssues_eq_nil (path : String) (sub : Condition) :
    subIssues path sub = .ok [] ↔ sub.SpelledOutBelow := by
  let ignored : List Issue :=
    if sub.subConditions.isEmpty then [] else [⟨path, "Nested sub-conditions are ignored"⟩]
  have hignored : (.ok ignored : Outcome (List Issue)) = .ok [] ↔ sub.subConditions = [] := by
    unfold ignored
    cases sub.subConditions with
    | nil => simp
    | cons below others => simp
  have hparts : subIssues path sub = (do return (← ownIssues path sub) ++ (← .ok ignored)) := rfl
  rw [hparts, append_eq_ok_nil, ownIssues_eq_nil, hignored]
  exact ⟨fun ⟨hown, hnone⟩ => ⟨hown, hnone⟩, fun ⟨hown, hnone⟩ => ⟨hown, hnone⟩⟩

theorem deepIssues_eq_nil (path : String) (condition : Condition) :
    deepIssues path condition = .ok [] ↔ condition.SpelledOutThroughout := by
  rw [deepIssues, append_eq_ok_nil, ownIssues_eq_nil, issuesFrom_eq_nil subIssues_eq_nil]
  exact ⟨fun ⟨hown, hsubs⟩ => ⟨hown, hsubs⟩, fun ⟨hown, hsubs⟩ => ⟨hown, hsubs⟩⟩

/-- A list has no issues if and only if it is spelled out. -/
theorem issues_eq_nil {path : String} {conditions : List Condition} :
    issues path conditions = .ok [] ↔
      ∀ condition ∈ conditions, condition.SpelledOutThroughout :=
  issuesFrom_eq_nil deepIssues_eq_nil

end Condition

end SkillTiers
