/-
# The strict reading of conditions

A strict evaluator reads conditions into names, relations and numbers, and gives nothing
where a text is not one of these: for an unknown metric, operator or link, for a threshold
that is missing or no number, and for sub-conditions that would be ignored. It then goes
through the conditions once, from left to right, without groups. It reads a list if and only
if the list has no issues, and then it agrees with the lenient evaluator on all metrics
(`Condition.evaluateLevel_strict_of_issues`).
-/

import SkillTiers.Proofs.Condition.Segments
import SkillTiers.Proofs.Condition.SpelledOut

namespace SkillTiers

/-! ### The strict evaluator -/

namespace MetricName

/-- The metric that a text names, blanks around the name aside. -/
def read? (text : String) : Option MetricName :=
  ofSpelling? (trimBlanks text)

/-- The metrics that a text names, with plus signs between them. -/
def readSum? (text : String) : Option (List MetricName) :=
  (text.toList.splitOn '+').mapM fun part => read? (String.ofList part)

/-- The sum of metrics, from left to right. -/
def sum (metrics : SkillMetrics) (names : List MetricName) : Outcome Number :=
  .ofArithmetic (names.foldlM (fun sum name => sum.add (name.value metrics)) 0)

end MetricName

/-- The right side of a comparison, read strictly. -/
inductive StrictSide where
  | metric (name : MetricName)
  | number (value : Double)

namespace StrictSide

/-- The number that a value gives, if it gives one. -/
def numeric? : Json → Option Double
  | .number value => value.toDouble.toOption.filter (!·.isNaN)
  | .string text => (Double.parse? text).filter (!·.isNaN)
  | _ => none

/-- The right side of a condition: the other metric if one is named, else the threshold. -/
def read? (condition : Condition) : Option StrictSide :=
  match condition.otherMetric? with
  | some name => (MetricName.read? name).map .metric
  | none => (numeric? condition.value).map .number

/-- The number to compare with. -/
def value (metrics : SkillMetrics) : StrictSide → Outcome Number
  | .metric name => MetricName.sum metrics [name]
  | .number value => .ok (.float value)

end StrictSide

/-- A comparison, read strictly. -/
structure StrictComparison where
  left : List MetricName
  relation : Relation
  right : StrictSide

namespace StrictComparison

/-- The comparison that a condition makes itself. -/
def read? (condition : Condition) : Option StrictComparison := do
  let left ← MetricName.readSum? (condition.metric.getD "")
  let relation ← Relation.ofSign? condition.operator
  let right ← StrictSide.read? condition
  return ⟨left, relation, right⟩

/-- Whether the comparison holds. -/
def evaluate (metrics : SkillMetrics) (comparison : StrictComparison) : Outcome Bool := do
  let left ← MetricName.sum metrics comparison.left
  let right ← comparison.right.value metrics
  return comparison.relation.holds left right

end StrictComparison

/-- A condition, read strictly. -/
structure StrictCondition where
  comparison : StrictComparison
  along : List StrictComparison
  /-- The next condition is an alternative. -/
  cuts : Bool

namespace StrictCondition

/-- Whether the link of a condition makes the next one an alternative, if the link is
known. -/
def cuts? (condition : Condition) : Option Bool :=
  match condition.link? with
  | none => some true
  | some link =>
    if link = Condition.alternative then some true
    else if link = Condition.conjunction then some false
    else none

/-- A sub-condition. Its link is read, and has no effect. -/
def readSub? (sub : Condition) : Option StrictComparison := do
  let comparison ← StrictComparison.read? sub
  let _ ← cuts? sub
  if sub.subConditions.isEmpty then some comparison else none

/-- A condition with its sub-conditions. -/
def read? (condition : Condition) : Option StrictCondition := do
  let comparison ← StrictComparison.read? condition
  let along ← condition.subConditions.mapM readSub?
  let cuts ← cuts? condition
  return ⟨comparison, along, cuts⟩

/-- Whether the comparison and all along with it hold. -/
def evaluate (metrics : SkillMetrics) (condition : StrictCondition) : Outcome Bool :=
  (condition.comparison :: condition.along).allM (·.evaluate metrics)

/-- Goes through conditions from left to right. As long as all since the last cut hold,
the next one is worked out; where they still do at a cut or at the end, the answer is yes. -/
def pass (metrics : SkillMetrics) (sofar : Bool) : List StrictCondition → Outcome Bool
  | [] => .ok false
  | condition :: rest => do
    let holds ← if sofar then condition.evaluate metrics else .ok false
    if condition.cuts || rest.isEmpty then
      if holds then return true else pass metrics true rest
    else
      pass metrics holds rest

end StrictCondition

/-- Whether a level's conditions hold, if they can be read strictly. -/
def evaluateStrictly? (metrics : SkillMetrics) (conditions : List Condition) :
    Option (Outcome Bool) :=
  (conditions.mapM StrictCondition.read?).map (StrictCondition.pass metrics true)

/-! ### What can be read strictly -/

section Options

variable {Item Result : Type}

/-- A list is read as these results if and only if its items are, one by one. -/
theorem mapM_eq_some {read? : Item → Option Result} {items : List Item}
    {results : List Result} : items.mapM read? = some results ↔
      List.Forall₂ (fun item result => read? item = some result) items results := by
  induction items generalizing results with
  | nil =>
      rw [List.mapM_nil, List.forall₂_nil_left_iff]
      exact ⟨fun h => (Option.some.inj h).symm, fun h => congrArg some h.symm⟩
  | cons item rest ih =>
      rw [List.mapM_cons, List.forall₂_cons_left_iff]
      constructor
      · intro hread
        obtain ⟨result, hresult, hread⟩ := Option.bind_eq_some_iff.mp hread
        obtain ⟨others, hothers, hread⟩ := Option.bind_eq_some_iff.mp hread
        exact ⟨result, others, hresult, ih.mp hothers, (Option.some.inj hread).symm⟩
      · rintro ⟨result, others, hresult, hothers, rfl⟩
        rw [hresult, ih.mpr hothers]
        rfl

/-- A list can be read if and only if each of its items can. -/
theorem isSome_mapM {read? : Item → Option Result} {items : List Item} :
    (items.mapM read?).isSome ↔ ∀ item ∈ items, (read? item).isSome := by
  induction items with
  | nil => simp
  | cons item rest ih =>
      rw [List.mapM_cons, List.forall_mem_cons, ← ih]
      cases read? item with
      | none => simp
      | some result =>
          cases rest.mapM read? with
          | none => simp
          | some results => simp

end Options

theorem StrictSide.numeric?_eq_some {json : Json} {value : Double} :
    numeric? json = some value ↔
      Threshold.ofJson json = .ok (.given value) ∧ value.isNaN = false := by
  cases json with
  | number number =>
      cases hdouble : number.toDouble with
      | error failure =>
          refine iff_of_false ?_ ?_
          · simp [numeric?, hdouble, Except.toOption]
          · rintro ⟨hthreshold, -⟩
            rw [Threshold.ofJson, hdouble] at hthreshold
            cases hthreshold
      | ok double =>
          have hthreshold : Threshold.ofJson (.number number) = .ok (.given double) := by
            rw [Threshold.ofJson, hdouble]
            rfl
          rw [hthreshold]
          simp only [numeric?, hdouble, Except.toOption, Option.filter_eq_some_iff,
            Except.ok.injEq, Threshold.given.injEq, Option.some.injEq, Bool.not_eq_true']
  | string text =>
      simp only [numeric?, Threshold.ofJson, Option.filter_eq_some_iff, Except.ok.injEq,
        Threshold.given.injEq, Bool.not_eq_true']
      cases Double.parse? text with
      | some double => simp
      | none =>
          refine iff_of_false (by simp) ?_
          rintro ⟨rfl, hnumber⟩
          cases hnumber
  | null => simp [numeric?, Threshold.ofJson]
  | bool _ | array _ | object _ =>
      refine iff_of_false (by simp [numeric?]) ?_
      rintro ⟨hthreshold, hnumber⟩
      cases hthreshold
      cases hnumber

/-- A term is known if and only if its text can be read strictly. -/
theorem Term.isKnown_parse (text : String) :
    (Term.parse text).isKnown = (MetricName.read? text).isSome :=
  rfl

/-- A sum can be read strictly if and only if its terms are known. -/
theorem MetricName.isSome_readSum? {text : String} :
    (readSum? text).isSome ↔ ∀ term ∈ (Operand.parse text).terms, term.isKnown = true := by
  unfold readSum? Operand.parse
  rw [isSome_mapM, List.forall_mem_map]
  rfl

theorem StrictSide.isSome_read? {condition : Condition} :
    (read? condition).isSome ↔
      (∃ name, condition.otherMetric? = some name ∧ (Term.parse name).isKnown = true) ∨
        (condition.otherMetric? = none ∧ ∃ value,
          Threshold.ofJson condition.value = .ok (.given value) ∧ value.isNaN = false) := by
  unfold read?
  cases condition.otherMetric? with
  | some name => simp [Term.isKnown_parse]
  | none => simp [Option.isSome_iff_exists, numeric?_eq_some]

theorem StrictComparison.isSome_read? {condition : Condition} :
    (read? condition).isSome ↔
      (∀ term ∈ (Operand.parse (condition.metric.getD "")).terms, term.isKnown = true) ∧
        (∃ relation : Relation, condition.operator = some relation.sign) ∧
          (StrictSide.read? condition).isSome := by
  simp only [← MetricName.isSome_readSum?, ← Relation.ofSign?_eq_some,
    ← Option.isSome_iff_exists]
  unfold read?
  cases MetricName.readSum? (condition.metric.getD "") with
  | none => simp
  | some left =>
      cases Relation.ofSign? condition.operator with
      | none => simp
      | some relation =>
          cases StrictSide.read? condition with
          | none => simp
          | some right => simp

namespace StrictCondition

theorem isSome_cuts? {condition : Condition} :
    (cuts? condition).isSome ↔
      ∀ link ∈ condition.link?, link = Condition.conjunction ∨ link = Condition.alternative := by
  unfold cuts?
  cases condition.link? with
  | none => simp
  | some link =>
      dsimp only
      split_ifs with halternative hconjunction
      · simp [halternative]
      · simp [hconjunction]
      · simp [halternative, hconjunction]

/-- A comparison and a link can be read strictly where the condition is spelled out. -/
theorem isSome_iff_spelledOut {condition : Condition} :
    ((StrictComparison.read? condition).isSome ∧ (cuts? condition).isSome) ↔
      condition.SpelledOut := by
  rw [StrictComparison.isSome_read?, StrictSide.isSome_read?, isSome_cuts?]
  constructor
  · rintro ⟨⟨hmetric, hoperator, hright⟩, hlink⟩
    exact ⟨hmetric, hoperator, hright, hlink⟩
  · rintro ⟨hmetric, hoperator, hright, hlink⟩
    exact ⟨⟨hmetric, hoperator, hright⟩, hlink⟩

theorem isSome_readSub? {sub : Condition} :
    (readSub? sub).isSome ↔ sub.SpelledOutBelow := by
  have hparts : (readSub? sub).isSome ↔
      ((StrictComparison.read? sub).isSome ∧ (cuts? sub).isSome) ∧ sub.subConditions = [] := by
    unfold readSub?
    cases StrictComparison.read? sub with
    | none => simp
    | some comparison =>
        cases cuts? sub with
        | none => simp
        | some cuts => simp
  rw [hparts, isSome_iff_spelledOut]
  exact ⟨fun ⟨hown, hnone⟩ => ⟨hown, hnone⟩, fun ⟨hown, hnone⟩ => ⟨hown, hnone⟩⟩

theorem isSome_read? {condition : Condition} :
    (read? condition).isSome ↔ condition.SpelledOutThroughout := by
  have hparts : (read? condition).isSome ↔
      ((StrictComparison.read? condition).isSome ∧ (cuts? condition).isSome) ∧
        (condition.subConditions.mapM readSub?).isSome := by
    unfold read?
    cases StrictComparison.read? condition with
    | none => simp
    | some comparison =>
        cases condition.subConditions.mapM readSub? with
        | none => simp
        | some along =>
            cases cuts? condition with
            | none => simp
            | some cuts => simp
  rw [hparts, isSome_iff_spelledOut, isSome_mapM]
  simp only [isSome_readSub?]
  exact ⟨fun ⟨hown, hsubs⟩ => ⟨hown, hsubs⟩, fun ⟨hown, hsubs⟩ => ⟨hown, hsubs⟩⟩

end StrictCondition

/-! ### What is read strictly holds of the same metrics -/

section Evaluation

variable {metrics : SkillMetrics}

/-- Terms that are read as names are added like the names. -/
theorem Term.foldlM_of_names {terms : List Term} {names : List MetricName}
    (hnames : List.Forall₂ (fun term name => name? term = some name) terms names)
    (start : Number) :
    terms.foldlM (fun sum term => sum.add (term.value metrics)) start =
      names.foldlM (fun sum name => sum.add (name.value metrics)) start := by
  induction hnames generalizing start with
  | nil => rfl
  | cons hname _ ih =>
      rw [List.foldlM_cons, List.foldlM_cons, Term.value, hname]
      congr 1
      funext sum
      exact ih sum

/-- Terms that are read as names have the sum of the names. -/
theorem Operand.value_of_names {operand : Operand} {names : List MetricName}
    (hnames : List.Forall₂ (fun term name => Term.name? term = some name) operand.terms names) :
    operand.value metrics = MetricName.sum metrics names := by
  unfold Operand.value MetricName.sum
  rw [Term.foldlM_of_names hnames]

theorem StrictSide.value_of_read {condition : Condition} {side : StrictSide}
    (hread : read? condition = some side) :
    ∃ right, Comparison.rightSide condition = .ok right ∧
      right.value metrics = side.value metrics := by
  unfold read? at hread
  cases hother : condition.otherMetric? with
  | some text =>
      rw [hother] at hread
      obtain ⟨name, hname, rfl⟩ := Option.map_eq_some_iff.mp hread
      exact ⟨_, Comparison.rightSide_of_metric hother, Operand.value_of_names (.cons hname .nil)⟩
  | none =>
      rw [hother] at hread
      obtain ⟨value, hvalue, rfl⟩ := Option.map_eq_some_iff.mp hread
      rw [Comparison.rightSide_of_threshold hother, (numeric?_eq_some.mp hvalue).1]
      exact ⟨_, rfl, rfl⟩

/-- A comparison that is read strictly holds of the same metrics. -/
theorem StrictComparison.evaluate_of_read {condition : Condition}
    {comparison : StrictComparison} (hread : read? condition = some comparison) :
    IsResult (Comparison.ofCondition condition) ∧
      condition.evaluate metrics = comparison.evaluate metrics := by
  obtain ⟨names, hnames, hread⟩ := Option.bind_eq_some_iff.mp hread
  obtain ⟨relation, hrelation, hread⟩ := Option.bind_eq_some_iff.mp hread
  obtain ⟨side, hside, hread⟩ := Option.bind_eq_some_iff.mp hread
  cases hread
  obtain ⟨right, hright, hvalue⟩ := StrictSide.value_of_read hside
  have hleft : (Operand.parse (condition.metric.getD "")).value metrics =
      MetricName.sum metrics names := by
    apply Operand.value_of_names
    unfold Operand.parse
    exact List.forall₂_map_left_iff.mpr (mapM_eq_some.mp hnames)
  have hcomparison : Comparison.ofCondition condition =
      .ok ⟨.parse (condition.metric.getD ""), condition.operator, right⟩ := by
    rw [Comparison.ofCondition, hright]
    rfl
  refine ⟨⟨_, hcomparison⟩, ?_⟩
  rw [Condition.evaluate_of_comparison hcomparison, Comparison.evaluate, Comparison.relation?,
    hrelation, StrictComparison.evaluate, hleft, hvalue]

/-- A sub-condition that is read strictly holds of the same metrics. -/
theorem StrictCondition.evaluate_of_readSub {sub : Condition} {comparison : StrictComparison}
    (hread : readSub? sub = some comparison) :
    IsResult (Comparison.ofCondition sub) ∧
      sub.evaluate metrics = comparison.evaluate metrics := by
  obtain ⟨own, hown, hread⟩ := Option.bind_eq_some_iff.mp hread
  obtain ⟨cuts, -, hread⟩ := Option.bind_eq_some_iff.mp hread
  split_ifs at hread with hnone
  cases hread
  exact StrictComparison.evaluate_of_read hown

theorem StrictCondition.closesGroup_of_cuts {condition : Condition} {cuts : Bool}
    (hread : cuts? condition = some cuts) : condition.closesGroup = cuts := by
  unfold cuts? at hread
  unfold Condition.closesGroup
  cases hlink : condition.link? with
  | none =>
      rw [hlink] at hread
      cases hread
      rfl
  | some link =>
      rw [hlink] at hread
      dsimp only at hread
      split_ifs at hread with halternative hconjunction
      · cases hread
        simp [halternative]
      · cases hread
        simp [halternative]

/-- The strict reading of a condition: it cuts where the condition ends its group, compiles,
and holds of the same metrics. -/
structure StrictCondition.Reads (metrics : SkillMetrics) (condition : Condition)
    (strict : StrictCondition) : Prop where
  cuts : condition.closesGroup = strict.cuts
  compiles : ∀ other ∈ condition :: condition.subConditions,
    IsResult (Comparison.ofCondition other)
  evaluate : condition.evaluateThroughout metrics = strict.evaluate metrics

theorem StrictCondition.reads_of_read {condition : Condition} {strict : StrictCondition}
    (hread : read? condition = some strict) : Reads metrics condition strict := by
  obtain ⟨own, hown, hread⟩ := Option.bind_eq_some_iff.mp hread
  obtain ⟨along, halong, hread⟩ := Option.bind_eq_some_iff.mp hread
  obtain ⟨cuts, hcuts, hread⟩ := Option.bind_eq_some_iff.mp hread
  cases hread
  have hitself : IsResult (Comparison.ofCondition condition) ∧
      condition.evaluate metrics = own.evaluate metrics := StrictComparison.evaluate_of_read hown
  have hsubs : List.Forall₂ (fun sub comparison => IsResult (Comparison.ofCondition sub) ∧
      sub.evaluate metrics = comparison.evaluate metrics) condition.subConditions along :=
    (mapM_eq_some.mp halong).imp fun _ _ => evaluate_of_readSub
  obtain ⟨halongCompiles, halongSame⟩ := (List.forall₂_and_left _ _).mp hsubs
  exact ⟨closesGroup_of_cuts hcuts, List.forall_mem_cons.mpr ⟨hitself.1, halongCompiles⟩,
    allM_forall₂ (.cons hitself.2 halongSame)⟩

/-- The answer of groups, the first of which holds only if all has held so far. -/
def StrictCondition.resume (metrics : SkillMetrics) (sofar : Bool) :
    List (List Condition) → Outcome Bool
  | [] => .ok false
  | group :: others => do
    let holds ← if sofar then Condition.evaluateGroup metrics group else .ok false
    if holds then return true else others.anyM (Condition.evaluateGroup metrics)

theorem StrictCondition.resume_true (groups : List (List Condition)) :
    resume metrics true groups = groups.anyM (Condition.evaluateGroup metrics) := by
  cases groups with
  | nil => rfl
  | cons group others =>
      rw [List.anyM, resume, if_pos rfl]
      congr 1
      funext holds
      cases holds <;> rfl

/-- Where a condition ends its group, the groups behind it are gone through afresh. -/
private theorem StrictCondition.pass_end {condition : Condition} {own : StrictCondition}
    {rest : List StrictCondition} {groups : List (List Condition)}
    (hreads : Reads metrics condition own) (hend : (own.cuts || rest.isEmpty) = true)
    (hrest : pass metrics true rest = resume metrics true groups) (sofar : Bool) :
    pass metrics sofar (own :: rest) = resume metrics sofar ([condition] :: groups) := by
  have hsingle : Condition.evaluateGroup metrics [condition] = own.evaluate metrics := by
    rw [Condition.evaluateGroup, List.allM, hreads.evaluate]
    cases own.evaluate metrics with
    | error failure => rfl
    | ok holds => cases holds <;> rfl
  rw [pass, resume, hsingle]
  simp only [hend, if_true, hrest, resume_true]

/-- Where it does not, the rest of the group is gone through with what has held so far. -/
private theorem StrictCondition.pass_within {condition : Condition} {own : StrictCondition}
    {rest : List StrictCondition} {group : List Condition} {groups : List (List Condition)}
    (hreads : Reads metrics condition own) (hend : (own.cuts || rest.isEmpty) = false)
    (hrest : ∀ sofar, pass metrics sofar rest = resume metrics sofar (group :: groups))
    (sofar : Bool) :
    pass metrics sofar (own :: rest) =
      resume metrics sofar ((condition :: group) :: groups) := by
  rw [pass, resume]
  simp only [hend, Bool.false_eq_true, if_false, hrest]
  cases sofar with
  | false => rfl
  | true =>
      rw [Condition.evaluateGroup, List.allM, hreads.evaluate]
      cases own.evaluate metrics with
      | error failure => rfl
      | ok holds => cases holds <;> rfl

/-- To go through the conditions is to go through their groups: in the midst of one, what
has held so far stands for the part of it that is left behind. -/
theorem StrictCondition.pass_eq {conditions : List Condition} {strict : List StrictCondition}
    (hreads : List.Forall₂ (Reads metrics) conditions strict) (sofar : Bool) :
    pass metrics sofar strict = resume metrics sofar (Condition.groups conditions) := by
  induction hreads generalizing sofar with
  | nil => rfl
  | @cons condition own rest others hreads hrest ih =>
      cases hcuts : own.cuts with
      | true =>
          rw [Condition.groups, if_pos (hreads.cuts.trans hcuts)]
          exact pass_end hreads (by simp [hcuts]) (ih true) sofar
      | false =>
          cases hrest with
          | nil =>
              rw [Condition.groups_singleton]
              exact pass_end hreads (by simp) rfl sofar
          | @cons next _ behind _ _ _ =>
              have hne := Condition.groups_ne_nil (List.cons_ne_nil next behind)
              obtain ⟨group, groups, hgroups⟩ := List.exists_cons_of_ne_nil hne
              have hopen : condition.closesGroup ≠ true := by
                rw [hreads.cuts, hcuts]
                exact Bool.false_ne_true
              rw [Condition.groups, if_neg hopen, hgroups]
              rw [hgroups] at ih
              exact pass_within hreads (by simp [hcuts]) ih sofar

end Evaluation

namespace Condition

/-- A list can be read strictly if and only if it has no issues. -/
theorem isSome_evaluateStrictly? {path : String} {conditions : List Condition}
    (metrics : SkillMetrics) :
    (evaluateStrictly? metrics conditions).isSome ↔ issues path conditions = .ok [] := by
  rw [issues_eq_nil, evaluateStrictly?, Option.isSome_map, isSome_mapM]
  simp only [StrictCondition.isSome_read?]

/-- A list that can be read strictly has the same answer when it is read leniently. -/
theorem evaluateLevel_of_strict {metrics : SkillMetrics} {conditions : List Condition}
    {answer : Outcome Bool} (hstrict : evaluateStrictly? metrics conditions = some answer) :
    evaluateLevel metrics conditions = answer := by
  obtain ⟨strict, hread, rfl⟩ := Option.map_eq_some_iff.mp hstrict
  have hreads : List.Forall₂ (StrictCondition.Reads metrics) conditions strict :=
    (mapM_eq_some.mp hread).imp fun _ _ => StrictCondition.reads_of_read
  have hcompile : IsResult (Expression.compile conditions) := by
    refine (Expression.isResult_compile conditions).mpr fun other hmem => ?_
    obtain ⟨condition, hcondition, hother⟩ := List.mem_flatMap.mp hmem
    obtain ⟨own, -, hown⟩ := exists_of_mem_forall₂ hreads.flip hcondition
    exact (isResult_comparison other).mp (hown.compiles other hother)
  rw [evaluateLevel_eq hcompile, StrictCondition.pass_eq hreads, StrictCondition.resume_true]

/-- A list of conditions is without issues if and only if every condition and every
sub-condition is spelled out, and no sub-condition has sub-conditions of its own. A strict
evaluator agrees with the lenient one on such lists, and gives nothing for all others. -/
theorem evaluateLevel_strict_of_issues (path : String) (conditions : List Condition) :
    (issues path conditions = .ok [] ↔
      ∀ condition ∈ conditions, condition.SpelledOut ∧
        ∀ sub ∈ condition.subConditions, sub.SpelledOut ∧ sub.subConditions = []) ∧
    (issues path conditions = .ok [] → ∀ metrics,
      evaluateStrictly? metrics conditions = some (evaluateLevel metrics conditions)) ∧
    (issues path conditions ≠ .ok [] → ∀ metrics,
      evaluateStrictly? metrics conditions = none) := by
  refine ⟨?_, fun hnone metrics => ?_, fun hsome metrics => ?_⟩
  · rw [issues_eq_nil]
    refine forall₂_congr fun condition _ => ⟨fun hspelled => ⟨hspelled.own, fun sub hsub => ?_⟩,
      fun ⟨hown, hsubs⟩ => ⟨hown, fun sub hsub => ?_⟩⟩
    · exact ⟨(hspelled.subConditions sub hsub).own, (hspelled.subConditions sub hsub).subConditions⟩
    · exact ⟨(hsubs sub hsub).1, (hsubs sub hsub).2⟩
  · obtain ⟨answer, hanswer⟩ :=
      Option.isSome_iff_exists.mp ((isSome_evaluateStrictly? metrics).mpr hnone)
    rw [hanswer, evaluateLevel_of_strict hanswer]
  · apply Option.not_isSome_iff_eq_none.mp
    exact mt (isSome_evaluateStrictly? metrics).mp hsome

/-- Conditions that are spelled out, with a sum, a text for a threshold, and a link at the
end that has no effect. -/
def plainCounts : List Condition :=
  [comparing "highCount + mediumCount" ">=" " lowCount " (some "AND")
    [comparing "lowCount" "<" "totalSubskills" none []],
   ⟨some "low%", some "<=", .string "25", some "", some "OR", [], none⟩]

/-- Counts that are spelled out are read alike by both evaluators, and with an unknown link
by the lenient one alone. -/
theorem evaluateLevel_strict_of_issues_counts :
    issues "conditions" plainCounts = .ok [] ∧
      (∀ metrics, evaluateStrictly? metrics plainCounts =
        some (evaluateLevel metrics plainCounts)) ∧
      issues "conditions" evenCounts ≠ .ok [] ∧
      ∀ metrics, evaluateStrictly? metrics evenCounts = none := by
  have hplain : issues "conditions" plainCounts = .ok [] := by
    apply ok_of_toOption
    decide +kernel
  have heven : issues "conditions" evenCounts ≠ .ok [] := by
    intro hnone
    have hlink := (issues_eq_nil.mp hnone _ List.mem_cons_self).own.link "XOR" (by decide)
    exact absurd hlink (by decide)
  obtain ⟨-, hboth, -⟩ := evaluateLevel_strict_of_issues "conditions" plainCounts
  obtain ⟨-, -, hnothing⟩ := evaluateLevel_strict_of_issues "conditions" evenCounts
  exact ⟨hplain, hboth hplain, heven, hnothing heven⟩

end Condition

end SkillTiers
