/-
# Conditions of requests and of the store

The same data can be read as the conditions of a request and as stored conditions. What a
request may bring can always be read as stored conditions, and both hold of the same
metrics (`Condition.evaluateLevel_of_readings`), except where a threshold counts that is
a truth value or a text with an underscore in a wrong place: a request brings a number
then, but what is stored is no number, so that nothing compared with it holds
(`Threshold.ofJson_of_asDouble`).

The two conditions that are read from one value have the same texts, and the threshold of
the second is the double that the first stands for (`Condition.Twins`).
-/

import Mathlib.Data.List.Forall2
import SkillTiers.Proofs.Condition.Totality
import SkillTiers.Proofs.Request.Conditions
import SkillTiers.Proofs.Request.Numerals

namespace SkillTiers

open Reading StoredCondition

/-! ### Thresholds -/

/-- Whether a value that a request may bring as a threshold is the same threshold where it
is stored: no truth value, and in a text underscores stand between digits alone. -/
def Json.countsAlike : Json → Bool
  | .bool _ => false
  | .string text => Numeral.underscoresFit false text.toList
  | _ => true

/-- Where it is stored, the double that a request brings is that double or no number. -/
theorem Threshold.ofJson_of_asDouble {value : Json} {double : Double}
    (hdouble : asDouble value = .ok double) :
    ofJson value = .ok (.given (if value.countsAlike then double else .nan)) := by
  cases value with
  | bool truth => rfl
  | number number =>
      cases hnearest : number.toDouble with
      | error overflow =>
          simp only [asDouble, doubleNumber, hnearest] at hdouble
          cases hdouble
      | ok nearest =>
          simp only [asDouble, doubleNumber, hnearest] at hdouble
          cases hdouble
          rw [ofJson, hnearest]
          rfl
  | string text =>
      cases hread : Numeral.double? text with
      | none =>
          simp only [asDouble, hread] at hdouble
          cases hdouble
      | some read =>
          simp only [asDouble, hread] at hdouble
          cases hdouble
          rw [ofJson, Numeral.parse?_of_double? hread, Json.countsAlike]
          by_cases hfit : Numeral.underscoresFit false text.toList = true
          · simp [hfit]
          · simp [hfit]
  | _ => cases hdouble

namespace Condition

/-! ### Two readings of one value -/

/-- The keys of stored conditions. -/
def storedKeys : List String :=
  ["metric", "operator", "value", "metric2", "combineWith", "subConditions", "note"]

/-- An object with no other keys than those of stored conditions, in which the
sub-conditions are such objects. -/
inductive UsesStoredKeys : Json → Prop where
  | mk {fields : List (String × Json)} (hkeys : ∀ field ∈ fields, field.1 ∈ storedKeys)
      (hsubs : ∀ items, Json.lookup fields "subConditions" = some (.array items) →
        ∀ item ∈ items, UsesStoredKeys item) : UsesStoredKeys (.object fields)

/-- The first condition is stored and the second was brought by a request, and both are
readings of one value. -/
inductive Twins : Condition → Condition → Prop where
  | mk {stored brought : Condition} (hmetric : stored.metric = brought.metric)
      (hoperator : stored.operator = brought.operator)
      (hvalue : (stored.value = .null ∧ brought.value = .null) ∨
        ∃ double, asDouble stored.value = .ok double ∧ brought.value = .number (.float double))
      (hmetric2 : stored.otherMetric? = brought.otherMetric?)
      (hlink : stored.link? = brought.link?)
      (hsubs : List.Forall₂ Twins stored.subConditions brought.subConditions) :
      Twins stored brought

/-- Under a key that no stored condition has there is nothing. -/
theorem lookup_of_storedKeys {fields : List (String × Json)}
    (hkeys : ∀ field ∈ fields, field.1 ∈ storedKeys) {key : String} (hkey : key ∉ storedKeys) :
    Json.lookup fields key = none := by
  have hnone : fields.find? (·.1 == key) = none := by
    rw [List.find?_eq_none]
    intro field hmem hsame
    exact hkey (beq_iff_eq.mp hsame ▸ hkeys field hmem)
  rw [Json.lookup, hnone]
  rfl

/-- The second name of a key does not matter where it is not there. -/
theorem lookup_keyAmong {fields : List (String × Json)} {first second : String}
    (hsecond : Json.lookup fields second = none) :
    Json.lookup fields (keyAmong fields first second) = Json.lookup fields first := by
  unfold keyAmong
  split
  · rfl
  · rename_i hfirst
    rw [hsecond, Option.not_isSome_iff_eq_none.mp hfirst]

/-- The text of a field that must be there is stored as it is. -/
theorem textOf_of_required {fields : List (String × Json)} {key value : String}
    (hvalid : required fields key text = .valid value) :
    textOf ((Json.lookup fields key).getD (.string "")) = .ok (some value) := by
  obtain ⟨given, hlookup, htext⟩ := required_valid hvalid
  rw [hlookup, text_valid htext]
  rfl

section Optional

variable {fields : List (String × Json)} {key : String} {value? : Option String}
  {read : Json → Reading String}
  (hread : ∀ given value, read given = .valid value → given = .string value)
  (hvalid : optional fields key read = .valid value?)

include hread hvalid

/-- A field that need not be there has a text, or null where there is none. -/
theorem fieldOrNull_of_optional : fieldOrNull fields key = .ofString? value? := by
  rcases optional_cases hvalid with ⟨rfl, hnull⟩ | ⟨given, value, hlookup, hgiven, rfl⟩
  · exact hnull
  · rw [fieldOrNull, hlookup, hread given value hgiven]
    rfl

/-- The text of a field that need not be there is stored as it is. -/
theorem textOf_of_optional : textOf (fieldOrNull fields key) = .ok value? := by
  rw [fieldOrNull_of_optional hread hvalid]
  exact textOf_ofString? value?

/-- An empty text stands for nothing where that is so. -/
theorem textOf_something_of_optional :
    textOf (somethingOrNull fields key) = .ok (nonempty? value?) := by
  have hfield := fieldOrNull_of_optional hread hvalid
  have hsomething : somethingOrNull fields key = (fieldOrNull fields key).something?.getD .null := by
    unfold somethingOrNull fieldOrNull
    cases Json.lookup fields key <;> rfl
  rw [hsomething, hfield, ofString?_nonempty?]
  exact textOf_ofString? _

end Optional

/-- A link is stored as the word that it is. -/
theorem string_of_word_link {given : Json} {value : String}
    (hvalid : word link given = .valid value) : given = .string value := by
  obtain ⟨text, rfl, hlink⟩ := word_valid hvalid
  have hsame := List.find?_some hlink
  rw [beq_iff_eq.mp hsame]

/-- The sub-conditions are those under their key. -/
theorem readSubConditions_valid {otherwise : ProblemKind} {depth : Nat} {key : String}
    {fields : List (String × Json)} {conditions : List Condition}
    (hvalid : readSubConditions otherwise depth key fields = .valid conditions) :
    (Json.lookup fields key = none ∧ conditions = []) ∨
      ∃ value, Json.lookup fields key = some value ∧
        readListAt otherwise (depth + 1) value = .valid conditions := by
  induction fields with
  | nil =>
      rw [readSubConditions] at hvalid
      cases hvalid
      exact .inl ⟨rfl, rfl⟩
  | cons field rest ih =>
      obtain ⟨name, value⟩ := field
      rw [readSubConditions] at hvalid
      by_cases hname : name = key
      · rw [if_pos (beq_iff_eq.mpr hname)] at hvalid
        rw [hname, Json.lookup_cons_self]
        exact .inr ⟨value, rfl, under_valid hvalid⟩
      · rw [if_neg (by simpa using hname)] at hvalid
        rw [Json.lookup_cons_of_ne hname]
        exact ih hvalid

/-- Conditions of a list are read one by one. -/
theorem readItems_valid {otherwise : ProblemKind} {depth position : Nat} {items : List Json}
    {conditions : List Condition}
    (hvalid : readItems otherwise depth position items = .valid conditions) :
    List.Forall₂ (fun item condition => readAt otherwise depth item = .valid condition) items
      conditions := by
  induction items generalizing position conditions with
  | nil =>
      rw [readItems] at hvalid
      cases hvalid
      exact .nil
  | cons item rest ih =>
      rw [readItems] at hvalid
      obtain ⟨_, others, hfirst, hothers, rfl⟩ := seq_valid hvalid
      obtain ⟨condition, hcondition, rfl⟩ := map_valid hfirst
      exact .cons (under_valid hcondition) (ih hothers)

/-- Nothing but an array is read as a list of conditions. -/
theorem readListAt_valid {otherwise : ProblemKind} {depth : Nat} {value : Json}
    {conditions : List Condition} (hvalid : readListAt otherwise depth value = .valid conditions) :
    ∃ items, value = .array items ∧
      List.Forall₂ (fun item condition => readAt otherwise depth item = .valid condition) items
        conditions := by
  cases value with
  | array items =>
      rw [readListAt] at hvalid
      exact ⟨items, rfl, readItems_valid hvalid⟩
  | _ =>
      rw [readListAt] at hvalid
      · cases hvalid
      · simp

/-- The value can be read as a stored condition, with room for so many in one another, and the
one that it stores for a rule is a twin of the other. -/
def StoresTwin (room : Nat) (value : Json) (brought : Condition) : Prop :=
  ∃ written stored, StoredCondition.read room value = .ok written ∧
    written.texts = .ok stored ∧ Twins stored brought

/-- Lists of values store twins if the values do. -/
theorem twins_of_items (room : Nat) {otherwise : ProblemKind} {depth : Nat} {items : List Json}
    {brought : List Condition}
    (hread : List.Forall₂ (fun item condition => readAt otherwise depth item = .valid condition)
      items brought)
    (htwins : ∀ item ∈ items, ∀ condition, readAt otherwise depth item = .valid condition →
      StoresTwin room item condition) :
    ∃ written stored, StoredCondition.readItems room items = .ok written ∧
      allTexts written = .ok stored ∧ List.Forall₂ Twins stored brought := by
  induction hread with
  | nil =>
      rw [StoredCondition.readItems]
      exact ⟨[], [], rfl, by rw [allTexts], .nil⟩
  | cons hitem _ ih =>
      obtain ⟨hfirst, hrest⟩ := List.forall_mem_cons.mp htwins
      obtain ⟨written, stored, hread, htexts, htwin⟩ := hfirst _ hitem
      obtain ⟨others, storedOthers, hothers, hotherTexts, htwins⟩ := ih hrest
      refine ⟨written :: others, stored :: storedOthers, ?_, ?_, .cons htwin htwins⟩
      · rw [StoredCondition.readItems, hread, hothers]
        rfl
      · rw [allTexts, htexts, hotherTexts]
        rfl

/-- The sub-conditions of a condition have twins if the values that they are read from
have. -/
theorem twins_of_subConditions (room : Nat) {otherwise : ProblemKind} {depth : Nat} {key : String}
    {fields : List (String × Json)} {brought : List Condition}
    (hkey : Json.lookup fields key = Json.lookup fields "subConditions")
    (hread : readSubConditions otherwise depth key fields = .valid brought)
    (htwins : ∀ items, Json.lookup fields "subConditions" = some (.array items) → ∀ item ∈ items,
      ∀ condition, readAt otherwise (depth + 1) item = .valid condition →
        StoresTwin room item condition) :
    ∃ written stored, ((Json.lookup fields "subConditions").map
        (StoredCondition.readList room)).getD (.ok []) = .ok written ∧
      allTexts written = .ok stored ∧ List.Forall₂ Twins stored brought := by
  rw [← hkey]
  rcases readSubConditions_valid hread with ⟨hnone, rfl⟩ | ⟨value, hlookup, hlist⟩
  · rw [hnone]
    exact ⟨[], [], rfl, by rw [allTexts], .nil⟩
  · obtain ⟨items, rfl, hitems⟩ := readListAt_valid hlist
    rw [hlookup, Option.map_some, Option.getD_some, StoredCondition.readList]
    exact twins_of_items room hitems (htwins items (hkey.symm.trans hlookup))

/-- What a request may bring as a condition can be read as a stored condition, and the two
are twins. -/
theorem twins_of_readAt {value : Json} (hkeys : UsesStoredKeys value) :
    ∀ {otherwise : ProblemKind} {depth room : Nat} {brought : Condition},
      maxDepth ≤ depth + room → readAt otherwise depth value = .valid brought →
        StoresTwin room value brought := by
  induction hkeys with
  | @mk fields hkeys _ ih =>
      intro otherwise depth room brought hroom hvalid
      obtain ⟨hdepth, hread⟩ := isReadFrom_of_readAt hvalid
      obtain ⟨left, rfl⟩ : ∃ left, room = left + 1 := ⟨room - 1, by omega⟩
      obtain ⟨metric, hmetric, hbroughtMetric⟩ := hread.metric
      obtain ⟨operator, hoperator, hbroughtOperator⟩ := hread.operator
      obtain ⟨threshold?, hthreshold, hbroughtValue⟩ := hread.value
      have hmetric2 := textOf_something_of_optional (fun _ _ => text_valid) hread.metric2
      have hlink := textOf_something_of_optional (fun _ _ => string_of_word_link) hread.combineWith
      rw [somethingOrNull, lookup_keyAmong (lookup_of_storedKeys hkeys (by decide))] at hlink
      have hnote := textOf_of_optional (fun _ _ => text_valid) hread.note
      have hsubsKey : Json.lookup fields (keyAmong fields "subConditions" "sub_conditions") =
          Json.lookup fields "subConditions" :=
        lookup_keyAmong (lookup_of_storedKeys hkeys (by decide))
      obtain ⟨written, subs, hwritten, hsubs, htwins⟩ :=
        twins_of_subConditions left hsubsKey hread.subConditions
          fun items hlookup item hmem _ hcondition =>
            ih items hlookup item hmem (by omega) hcondition
      have hobject := StoredCondition.read_object left fields
      rw [hwritten] at hobject
      refine ⟨_, ⟨some metric, some operator, fieldOrNull fields "value",
        nonempty? brought.metric2, nonempty? brought.combineWith, subs, brought.note⟩, hobject, ?_,
        .mk hbroughtMetric.symm hbroughtOperator.symm ?_ (nonempty?_nonempty? _)
          (nonempty?_nonempty? _) htwins⟩
      · rw [texts, textOf_of_required hmetric, textOf_of_required hoperator, hmetric2,
          somethingOrNull, hlink, hsubs, hnote]
        rfl
      · rw [hbroughtValue]
        rcases optional_cases hthreshold with ⟨rfl, hnull⟩ | ⟨given, double, hgiven, hread, rfl⟩
        · exact .inl ⟨hnull, rfl⟩
        · refine .inr ⟨double, ?_, rfl⟩
          rw [fieldOrNull, hgiven]
          exact converted_valid hread

/-! ### Twins hold of the same metrics -/

/-- The threshold of the condition counts alike in both readings, if it counts at all: no
other metric is named, and the relation is known. -/
def ComparesAlike (condition : Condition) : Prop :=
  condition.otherMetric? = none → (Relation.ofSign? condition.operator).isSome = true →
    condition.value.countsAlike = true

instance (condition : Condition) : Decidable condition.ComparesAlike :=
  inferInstanceAs (Decidable (_ → _ → _))

/-- The condition is compared alike, and so is what must hold along with it. -/
def ComparesAlikeThroughout (condition : Condition) : Prop :=
  ∀ other ∈ condition :: condition.subConditions, other.ComparesAlike

/-- Twins make comparisons that hold of the same metrics. -/
theorem Twins.comparisons {stored brought : Condition} (htwins : Twins stored brought) :
    ∃ comparison comparison', Comparison.ofCondition stored = .ok comparison ∧
      Comparison.ofCondition brought = .ok comparison' ∧
        (stored.ComparesAlike → ∀ metrics,
          comparison.evaluate metrics = comparison'.evaluate metrics) := by
  cases htwins with
  | mk hmetric hoperator hvalue hmetric2 _ _ =>
      unfold Comparison.ofCondition Comparison.rightSide
      rw [← hmetric, ← hoperator, ← hmetric2]
      cases hother : stored.otherMetric? with
      | some name => exact ⟨_, _, rfl, rfl, fun _ _ => rfl⟩
      | none =>
          rcases hvalue with ⟨hstored, hbrought⟩ | ⟨double, hdouble, hbrought⟩
          · rw [hstored, hbrought]
            exact ⟨_, _, rfl, rfl, fun _ _ => rfl⟩
          · rw [Threshold.ofJson_of_asDouble hdouble, hbrought]
            refine ⟨_, _, rfl, rfl, fun halike metrics => ?_⟩
            cases hrelation : Relation.ofSign? stored.operator with
            | none => simp only [Comparison.evaluate, Comparison.relation?, hrelation]
            | some relation =>
                have hcounts := halike hother (by rw [hrelation]; rfl)
                rw [if_pos hcounts]

/-- Twins that are compared alike hold of the same metrics, with all that must hold along
with them. -/
theorem Twins.grouped {stored brought : Condition} (htwins : Twins stored brought)
    (halike : stored.ComparesAlikeThroughout) :
    ∃ grouped grouped', GroupedComparison.ofCondition stored = .ok grouped ∧
      GroupedComparison.ofCondition brought = .ok grouped' ∧
        ∀ metrics, grouped.evaluate metrics = grouped'.evaluate metrics := by
  obtain ⟨hown, hsubs⟩ := List.forall_mem_cons.mp halike
  obtain ⟨comparison, comparison', hfirst, hsecond, hsame⟩ := htwins.comparisons
  cases htwins with
  | mk _ _ _ _ _ htwins =>
      have hboth := (List.forall₂_and_left _ _).mpr ⟨hsubs, htwins⟩
      obtain ⟨along, along', halong, halong', heach⟩ :=
        mapM_both hboth fun _ _ ⟨hsub, htwin⟩ => by
          obtain ⟨comparison, comparison', hfirst, hsecond, hsame⟩ := htwin.comparisons
          exact ⟨comparison, comparison', hfirst, hsecond, hsame hsub⟩
      unfold GroupedComparison.ofCondition
      rw [hfirst, hsecond, halong, halong']
      refine ⟨_, _, rfl, rfl, fun metrics => ?_⟩
      unfold GroupedComparison.evaluate
      dsimp only
      rw [hsame hown metrics, allM_forall₂ (heach.imp fun _ _ hholds => hholds metrics)]

/-- Groups of twins that are compared alike hold of the same metrics. -/
theorem group_of_twins {stored brought : List Condition}
    (htwins : List.Forall₂ (fun stored brought => stored.ComparesAlikeThroughout ∧
      Twins stored brought) stored brought) :
    ∃ group group' : AndGroup,
      (do return AndGroup.mk (← stored.mapM GroupedComparison.ofCondition)) = .ok group ∧
        (do return AndGroup.mk (← brought.mapM GroupedComparison.ofCondition)) = .ok group' ∧
          ∀ metrics, group.evaluate metrics = group'.evaluate metrics := by
  obtain ⟨members, members', hmembers, hmembers', heach⟩ :=
    mapM_both htwins fun _ _ ⟨halike, htwin⟩ => htwin.grouped halike
  rw [hmembers, hmembers']
  exact ⟨_, _, rfl, rfl, fun metrics =>
    allM_forall₂ (heach.imp fun _ _ hholds => hholds metrics)⟩

/-- Lists of twins that are compared alike hold of the same metrics. -/
theorem evaluateLevel_of_twins {stored brought : List Condition}
    (htwins : List.Forall₂ Twins stored brought)
    (halike : ∀ condition ∈ compared stored, condition.ComparesAlike) (metrics : SkillMetrics) :
    evaluateLevel metrics brought = evaluateLevel metrics stored := by
  have hthroughout : ∀ condition ∈ stored, condition.ComparesAlikeThroughout :=
    List.forall_mem_flatMap.mp halike
  have hboth := (List.forall₂_and_left _ _).mpr ⟨hthroughout, htwins⟩
  have hgroups := groups_forall₂ (fun _ _ htwin => by
    cases htwin.2 with
    | mk _ _ _ _ hlink _ => rw [closesGroup, closesGroup, hlink]) hboth
  obtain ⟨compiled, compiled', hcompiled, hcompiled', heach⟩ :=
    mapM_both hgroups fun _ _ => group_of_twins
  unfold evaluateLevel Expression.compile
  rw [hcompiled, hcompiled']
  exact (anyM_forall₂ (heach.imp fun _ _ hholds => hholds metrics)).symm

/-- What a request may bring as conditions can be read as stored conditions, if it has no
other keys than these. Both hold of the same metrics, if no threshold that counts is a
truth value, or a text with an underscore that does not stand between digits. -/
theorem evaluateLevel_of_readings {otherwise : ProblemKind} {items : List Json}
    {brought : List Condition} (hkeys : ∀ item ∈ items, UsesStoredKeys item)
    (hread : readList otherwise (.array items) = .valid brought) :
    ∃ stored, ofStoredList (.array items) = .ok stored ∧
      ((∀ condition ∈ compared stored, condition.ComparesAlike) →
        ∀ metrics, evaluateLevel metrics brought = evaluateLevel metrics stored) := by
  obtain ⟨_, hitems, hconditions⟩ := readListAt_valid hread
  cases hitems
  obtain ⟨written, stored, hwritten, hstored, htwins⟩ :=
    twins_of_items maxNesting hconditions fun item hmem _ hcondition =>
      twins_of_readAt (hkeys item hmem) (by decide) hcondition
  refine ⟨stored, ?_, evaluateLevel_of_twins htwins⟩
  rw [ofStoredList, StoredCondition.readList, hwritten]
  exact hstored

/-- At least ten subskills are rated high, and more than low. -/
def tenHigh : Json :=
  .object [("metric", .string "highCount"), ("operator", .string ">="), ("value", .string "1_0"),
    ("subConditions", .array [.object [("metric", .string "lowCount"), ("operator", .string "<"),
      ("metric2", .string "highCount")]])]

theorem usesStoredKeys_tenHigh : UsesStoredKeys tenHigh := by
  refine .mk (by decide) fun items hitems item hmem => ?_
  cases hitems
  rw [List.mem_singleton.mp hmem]
  exact .mk (by decide) fun _ hnone => absurd hnone (by simp [Json.lookup])

/-- A request that brings the condition means the condition that is stored. -/
theorem evaluateLevel_of_readings_tenHigh :
    ∃ brought stored, readList .notObject (.array [tenHigh]) = .valid brought ∧
      ofStoredList (.array [tenHigh]) = .ok stored ∧
        ∀ metrics, evaluateLevel metrics brought = evaluateLevel metrics stored := by
  have hkeys : ∀ item ∈ [tenHigh], UsesStoredKeys item := by
    simpa using usesStoredKeys_tenHigh
  obtain ⟨stored, hstored, hsame⟩ := evaluateLevel_of_readings hkeys
    (show readList .notObject (.array [tenHigh]) = .valid _ from rfl)
  refine ⟨_, stored, rfl, hstored, hsame ?_⟩
  cases hstored
  decide

/-- The double one. -/
def one : Double :=
  .finite false ⟨unitsPerOne, by decide +kernel, by decide +kernel⟩

/-- One subskill, rated high. -/
def oneHigh : SkillMetrics :=
  ⟨1, 0, 0, 1, .zero, .zero, .zero⟩

/-- A condition on the number of subskills rated high. -/
def highAtLeast (threshold : Json) : Condition :=
  ⟨some "highCount", some ">=", threshold, none, none, [], none⟩

/-- The fields of such a condition. -/
def highAtLeastFields (threshold : Json) : List (String × Json) :=
  [("metric", .string "highCount"), ("operator", .string ">="), ("value", threshold)]

/-- A request brings the condition with the double that its threshold stands for. -/
private theorem readList_highAtLeast {threshold : Json} {double : Double}
    (hdouble : asDouble threshold = .ok double) :
    readList .notObject (.array [.object (highAtLeastFields threshold)]) =
      .valid [highAtLeast (.number (.float double))] := by
  have hvalue : optional (highAtLeastFields threshold) "value" Reading.double =
      .valid (some double) := by
    have hlookup : Json.lookup (highAtLeastFields threshold) "value" = some threshold := rfl
    rw [Reading.optional, withDefault, hlookup]
    cases threshold with
    | null => cases hdouble
    | _ =>
        simp only [nullable, Reading.double, converted, hdouble]
        rfl
  rw [readList, readListAt, readItems, readItems, readAt, if_pos (by decide), hvalue]
  rfl

/-- Of a threshold only the double counts that it gives. -/
private theorem evaluateLevel_highAtLeast {threshold : Json} {double : Double}
    (hthreshold : Threshold.ofJson threshold = .ok (.given double)) (metrics : SkillMetrics) :
    evaluateLevel metrics [highAtLeast threshold] =
      evaluateLevel metrics [highAtLeast (.number (.float double))] := by
  have hcomparison : Comparison.ofCondition (highAtLeast threshold) =
      Comparison.ofCondition (highAtLeast (.number (.float double))) := by
    rw [Comparison.ofCondition, Comparison.rightSide, highAtLeast, hthreshold]
    rfl
  have hgrouped : GroupedComparison.ofCondition (highAtLeast threshold) =
      GroupedComparison.ofCondition (highAtLeast (.number (.float double))) := by
    rw [GroupedComparison.ofCondition, hcomparison]
    rfl
  have hgroups (value : Json) : groups [highAtLeast value] = [[highAtLeast value]] := rfl
  simp only [evaluateLevel, Expression.compile, hgroups, List.mapM_cons, List.mapM_nil, hgrouped]

/-- With this threshold a request brings a condition that holds, and what is stored is one
that does not hold. -/
structure MeansTwoThings (threshold : Json) : Prop where
  usesStoredKeys : UsesStoredKeys (.object (highAtLeastFields threshold))
  readings : ∃ brought stored,
    readList .notObject (.array [.object (highAtLeastFields threshold)]) = .valid brought ∧
      ofStoredList (.array [.object (highAtLeastFields threshold)]) = .ok stored ∧
        evaluateLevel oneHigh brought = .ok true ∧ evaluateLevel oneHigh stored = .ok false

/-- What a request brings as the number one, but is stored as no number, means two things. -/
theorem meansTwoThings {threshold : Json} (hdouble : asDouble threshold = .ok one)
    (hcounts : threshold.countsAlike = false) : MeansTwoThings threshold where
  usesStoredKeys := by
    refine .mk ?_ fun _ hnone => absurd hnone (by simp [highAtLeastFields, Json.lookup])
    simp [highAtLeastFields, storedKeys]
  readings := by
    have hthreshold : Threshold.ofJson threshold = .ok (.given .nan) := by
      rw [Threshold.ofJson_of_asDouble hdouble, hcounts]
      rfl
    refine ⟨_, [highAtLeast threshold], readList_highAtLeast hdouble, rfl, ok_of_toOption ?_, ?_⟩
    · decide +kernel
    · rw [evaluateLevel_highAtLeast hthreshold]
      apply ok_of_toOption
      decide +kernel

/-- A truth value and a text with a misplaced underscore are numbers where a request brings
them, and no numbers where they are stored. -/
theorem readings_differ : MeansTwoThings (.bool true) ∧ MeansTwoThings (.string "1_.") :=
  ⟨meansTwoThings (by decide +kernel) rfl, meansTwoThings (by decide +kernel) (by decide)⟩

end Condition

end SkillTiers
