/-
# Changes that fail

A change that has written its rows can still fail when they are read back. That does not
happen to conditions whose thresholds are proper values: what is too deep or too long to
be read is refused before anything is written. Hence a change of readable rows that fails
leaves them as they were (`create_error`, `update_error`), and so does deleting where ids
occur once (`delete_error`).
-/

import SkillTiers.Proofs.Outcome
import SkillTiers.Proofs.Store.Clock

namespace SkillTiers

open Condition

/-- In no threshold of the conditions has an object a key twice. -/
def Condition.AreProper (conditions : List Condition) : Prop :=
  ∀ threshold ∈ allThresholds conditions, threshold.KeysOnce

/-- The conditions that the update sets, if any, are proper ones in their stored shape. -/
def RuleUpdate.IsProper (update : RuleUpdate) : Prop :=
  ∀ stored ∈ update.conditions, ∃ conditions, stored = allToStored conditions ∧
    AreProper conditions

/-- There is room for values of which a text can be made. -/
theorem Json.allow_of_checkText {conditions : Json} (htext : conditions.checkText = .ok ()) :
    conditions.allow maxRoom = .ok () := by
  unfold checkText at htext
  cases hallowed : conditions.allow maxRoom with
  | ok _ => rfl
  | error fault =>
      rw [hallowed] at htext
      cases fault <;> cases htext

namespace Row

/-- What a row says it says under its id and with its marks. -/
theorem columns_of_toRule {row : Row} {stored : StoredRule} (hrule : row.toRule = .ok stored) :
    stored.rule.id = row.id ∧ stored.createdBy = row.createdBy ∧
      stored.createdAt = row.createdAt := by
  obtain ⟨tier, conditions, -, -, rfl⟩ := toRule_ok_iff.mp hrule
  exact ⟨rfl, rfl, rfl⟩

/-- A row can be read if its level and its conditions can. -/
theorem isResult_toRule_iff {row : Row} :
    IsResult row.toRule ↔ IsResult (Tier.ofLevel row.level) ∧ IsResult row.readConditions := by
  constructor
  · rintro ⟨_, hrule⟩
    obtain ⟨tier, conditions, htier, hconditions, -⟩ := toRule_ok_iff.mp hrule
    exact ⟨⟨tier, htier⟩, conditions, hconditions⟩
  · rintro ⟨⟨tier, htier⟩, conditions, hconditions⟩
    exact ⟨_, toRule_ok_iff.mpr ⟨tier, conditions, htier, hconditions, rfl⟩⟩

/-- The text of proper conditions is read back if it could be made. -/
theorem isResult_readConditions {row : Row} {conditions : List Condition}
    (hproper : AreProper conditions)
    (hcheck : (Json.array (allToStored conditions)).checkText = .ok ())
    (htext : row.conditions = .string (Json.array (allToStored conditions)).text) :
    IsResult row.readConditions := by
  unfold readConditions conditionsValue
  rw [htext]
  dsimp only
  rw [reread_text hproper, Json.allow_of_checkText hcheck]
  exact isResult_ok _

/-- A row that is inserted for a rule can be read. -/
theorem Inserts.isResult {actor : Option String} {rule : Rule} {row : Row}
    (hrow : Inserts actor rule row) (hproper : AreProper rule.conditions)
    (hcheck : rule.storedConditions.checkText = .ok ()) : IsResult row.toRule := by
  cases hrow with
  | mk instant htier hid =>
      refine isResult_toRule_iff.mpr ⟨⟨_, Tier.ofLevel_name _⟩, ?_⟩
      exact isResult_readConditions hproper hcheck rfl

/-- A readable row can be read after an update that is accepted. -/
theorem isResult_updated {row : Row} {update : RuleUpdate} (actor : Option String)
    (instant : Instant) (hrow : IsResult row.toRule) (hproper : update.IsProper)
    (hcheck : update.check = .ok ()) :
    IsResult ((row.updated update).stamped actor instant).toRule := by
  obtain ⟨hlevel, hconditions⟩ := isResult_toRule_iff.mp hrow
  obtain ⟨level?, stored?, displayOrder, isActive⟩ := update
  obtain ⟨hnew, htext⟩ : (RuleUpdate.mk level? stored? displayOrder isActive).checkLevel = .ok () ∧
      stored?.elim (.ok ()) (fun stored => (Json.array stored).checkText) = .ok () := by
    unfold RuleUpdate.check at hcheck
    cases hnew : (RuleUpdate.mk level? stored? displayOrder isActive).checkLevel with
    | error failure =>
        rw [hnew] at hcheck
        cases hcheck
    | ok _ =>
        rw [hnew] at hcheck
        exact ⟨rfl, hcheck⟩
  refine isResult_toRule_iff.mpr ⟨?_, ?_⟩
  · cases level? with
    | none => exact hlevel
    | some level =>
        obtain ⟨tier, htier, -⟩ := map_ok hnew
        exact ⟨tier, htier⟩
  · cases stored? with
    | none => exact hconditions
    | some stored =>
        obtain ⟨conditions, rfl, hkeys⟩ := hproper stored rfl
        exact isResult_readConditions hkeys htext rfl

end Row

namespace Store

variable {store left : Store} {actor : Option String} {cause : Failure}

/-- A rule is not created of whose conditions no text can be made. -/
theorem keepsRows_create_of_refused {rule : Rule} {refusal : Failure} (actor : Option String)
    (hrefused : rule.storedConditions.checkText = .error refusal) :
    KeepsRows (create rule actor) := by
  have hrest (id : String) : KeepsRows (do
      let tier ← Action.ofOutcome rule.tier
      Action.ofOutcome rule.storedConditions.checkText
      let row ← execute fun now rows => insertRow (.ofRule id tier rule actor now) rows
      Action.ofOutcome row.toRule : Action StoredRule) := by
    rw [hrefused]
    exact isFrame_rows.bind (isFrame_rows.ofOutcome _) fun _ =>
      isFrame_rows.ofOutcome (.error refusal)
  refine isFrame_rows.session ?_ _
  unfold insert
  dsimp only
  split
  · exact isFrame_rows.bind (fun _ => rfl) hrest
  · exact hrest rule.id

/-- Creating a rule with proper conditions fails only as long as nothing is written. -/
theorem create_error {rule : Rule} (hproper : AreProper rule.conditions)
    (hresult : create rule actor store = (.error cause, left)) : left.rows = store.rows := by
  cases hcheck : rule.storedConditions.checkText with
  | error refusal =>
      have hsame := keepsRows_create_of_refused actor hcheck store
      rw [hresult] at hsame
      exact hsame
  | ok _ =>
      rcases create_cases hresult with ⟨_, -, hsame⟩ | ⟨row, hrow, -, -, -, htold⟩
      · exact hsame
      · exact absurd (htold ▸ hrow.isResult hproper hcheck) (not_isResult_error cause)

/-- So does updating a rule in a table whose rows can be read. -/
theorem update_error {id : String} {update : RuleUpdate} (hproper : update.IsProper)
    (hrows : ∀ row ∈ store.rows, IsResult row.toRule)
    (hresult : Store.update id update actor store = (.error cause, left)) :
    left.rows = store.rows := by
  cases hcheck : update.check with
  | error refusal =>
      unfold Store.update at hresult
      rw [hcheck] at hresult
      exact congrArg Store.rows (Prod.mk.inj hresult).2.symm
  | ok _ =>
      rcases update_cases hresult with ⟨_, -, hsame⟩ | ⟨row, instant, hfound, -, -, htold⟩
      · exact hsame
      · have hrow := hrows row (List.mem_of_find?_eq_some hfound)
        exact absurd (htold ▸ Row.isResult_updated actor instant hrow hproper hcheck)
          (not_isResult_error cause)

/-- So does deleting where ids occur once, since then at most one row goes. -/
theorem delete_error {id : String} (honce : Row.IdsOnce store.rows)
    (hresult : delete id store = (.error cause, left)) : left.rows = store.rows := by
  rcases delete_cases hresult with ⟨_, -, hsame⟩ | ⟨hfewer, houtcome⟩
  · exact hsame
  · have hcount : store.rows.countP (·.id == id) = (store.rows.map (·.id)).count id := by
      rw [List.count, List.countP_map]
      rfl
    have hle : (store.rows.map (·.id)).count id ≤ 1 := List.nodup_iff_count_le_one.mp honce id
    have hzero : store.rows.countP (·.id == id) = 0 := by
      split at houtcome
      · cases houtcome
      · omega
    rw [hfewer, List.filter_eq_self]
    intro row hmem
    simpa using List.countP_eq_zero.mp hzero row hmem

end Store

end SkillTiers
