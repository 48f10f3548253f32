/-
# Operations that change the table

An operation either fails and leaves readable rows as they were (`run_error`), or it writes
what it is there for (`run_ok`). In both cases every row that it leaves was there and is not
touched, was there and is touched, or is inserted, with the marks that go with it
(`run_leaves`).
-/

import SkillTiers.Proofs.Store.Refusal

namespace SkillTiers

namespace Store

/-! ### Operations -/

/-- What can be done to change the table. -/
inductive Operation where
  | create (rule : Rule) (actor : Option String)
  | update (id : String) (change : RuleUpdate) (actor : Option String)
  | delete (id : String)
  | reorder (places : List (String × Int)) (actor : Option String)
  | seed (actor : Option String)

namespace Operation

/-- Does it, and gives back the rules that come of it. -/
def run : Operation → Action (List StoredRule)
  | .create rule actor => do return [← Store.create rule actor]
  | .update id change actor => do return [← Store.update id change actor]
  | .delete id => do
    Store.delete id
    return []
  | .reorder places actor => do
    Store.reorder places actor
    return []
  | .seed actor => Store.seed actor

/-- The conditions that come with it are proper ones. -/
def IsProper : Operation → Prop
  | .create rule _ => Condition.AreProper rule.conditions
  | .update _ change _ => change.IsProper
  | .delete _ | .reorder .. | .seed _ => True

/-- In whose name rows are written, possibly nobody's; deleting writes none. -/
def author? : Operation → Option (Option String)
  | .create _ actor | .update _ _ actor | .reorder _ actor | .seed actor => some actor
  | .delete _ => none

/-- The ids of the rows that it is about; what it inserts is not there yet. -/
def targets : Operation → List String
  | .update id _ _ | .delete id => [id]
  | .reorder places _ => places.map (·.1)
  | .create .. | .seed _ => []

/-- The rules that it has inserted if it ends in this way. -/
def inserted : Operation → Outcome (List StoredRule) → List StoredRule
  | .create .., .ok given | .seed _, .ok given => given
  | _, _ => []

/-- The ids of the rows that it has touched if it ends in this way. -/
def touched (operation : Operation) : Outcome (List StoredRule) → List String
  | .ok given => operation.targets ++ (operation.inserted (.ok given)).map (·.rule.id)
  | .error _ => []

theorem advances_run (operation : Operation) : Respects Advances operation.run := by
  cases operation with
  | create rule actor =>
      exact isFrame_advances.bind (advances_create rule actor)
        fun _ => isFrame_advances.ofOutcome (.ok _)
  | update id change actor =>
      exact isFrame_advances.bind (advances_update id change actor)
        fun _ => isFrame_advances.ofOutcome (.ok _)
  | delete id =>
      exact isFrame_advances.bind (advances_delete id)
        fun _ => isFrame_advances.ofOutcome (.ok _)
  | reorder places actor =>
      exact isFrame_advances.bind (advances_reorder places actor)
        fun _ => isFrame_advances.ofOutcome (.ok _)
  | seed actor => exact advances_seed actor

/-! ### What an operation does -/

variable {operation : Operation} {store left : Store} {given : List StoredRule}
  {outcome : Outcome (List StoredRule)}

/-- An operation on readable rows that fails leaves them as they were. -/
theorem run_error {cause : Failure} (hproper : operation.IsProper)
    (honce : Row.IdsOnce store.rows) (hrows : ∀ row ∈ store.rows, IsResult row.toRule)
    (hresult : operation.run store = (.error cause, left)) : left.rows = store.rows := by
  cases operation with
  | create rule actor =>
      rcases bind_cases hresult with ⟨_, -, hfail⟩ | ⟨_, _, -, hdone⟩
      · exact create_error hproper hfail
      · cases hdone
  | update id change actor =>
      rcases bind_cases hresult with ⟨_, -, hfail⟩ | ⟨_, _, -, hdone⟩
      · exact update_error hproper hrows hfail
      · cases hdone
  | delete id =>
      rcases bind_cases hresult with ⟨_, -, hfail⟩ | ⟨_, _, -, hdone⟩
      · exact delete_error honce hfail
      · cases hdone
  | reorder places actor =>
      rcases bind_cases hresult with ⟨_, -, hfail⟩ | ⟨_, _, -, hdone⟩
      · rcases reorder_cases hfail with ⟨_, -, hsame⟩ | ⟨hdone, -⟩
        · exact hsame
        · cases hdone
      · cases hdone
  | seed actor =>
      rcases seed_cases hresult with ⟨-, hsame⟩ | ⟨_, _, _, hdone, -⟩
      · exact hsame
      · cases hdone

/-- What an operation that ends well writes, with the rules that it gives back. -/
inductive Writes : Operation → List Row → List StoredRule → List Row → Prop where
  | create {rule : Rule} {actor : Option String} {rows : List Row} {row : Row}
      {created : StoredRule} (hrow : Row.Inserts actor rule row)
      (htold : row.toRule = .ok created) :
      Writes (.create rule actor) rows [created] (rows ++ [row])
  | update {id : String} {change : RuleUpdate} {actor : Option String} {rows : List Row}
      {row : Row} {updated : StoredRule} (instant : Instant)
      (hfound : Row.find? rows id = some row)
      (htold : ((row.updated change).stamped actor instant).toRule = .ok updated) :
      Writes (.update id change actor) rows [updated]
        (Row.modify rows id fun row => (row.updated change).stamped actor instant)
  | delete {id : String} {rows : List Row} :
      Writes (.delete id) rows [] (rows.filter (·.id != id))
  | reorder {places : List (String × Int)} {actor : Option String} {rows placed : List Row}
      (hplaces : Row.Places actor places rows placed) :
      Writes (.reorder places actor) rows [] placed
  | seed {actor : Option String} {rows more : List Row} {given : List StoredRule} (number : Nat)
      (hgiven : more.mapM Row.toRule = .ok given)
      (hseeded : List.Forall₂ (Row.Inserts actor) (Seed.rules number) more) :
      Writes (.seed actor) rows given (rows ++ more)
  | seedNothing {actor : Option String} {rows : List Row} : Writes (.seed actor) rows [] rows

/-- Seeding that inserts rules has an author. -/
theorem author_of_seed {actor : Option String} (hsome : given ≠ [])
    (hresult : Store.seed actor store = (.ok given, left)) : nonempty? actor = actor := by
  unfold Store.seed at hresult
  cases hactor : nonempty? actor with
  | none =>
      rw [hactor] at hresult
      cases hresult
      exact absurd rfl hsome
  | some name => exact (Option.filter_eq_some_iff.mp hactor).1.symm

/-- An operation that ends well has written what it is there for. -/
theorem run_ok (hresult : operation.run store = (.ok given, left)) :
    operation.Writes store.rows given left.rows := by
  cases operation with
  | create rule actor =>
      obtain ⟨created, mid, hcreate, hdone⟩ := bind_ok hresult
      cases hdone
      rcases create_cases hcreate with ⟨_, hfail, -⟩ | ⟨row, hrow, -, hmore, -, htold⟩
      · cases hfail
      · exact hmore ▸ .create hrow htold.symm
  | update id change actor =>
      obtain ⟨updated, mid, hupdate, hdone⟩ := bind_ok hresult
      cases hdone
      rcases update_cases hupdate with ⟨_, hfail, -⟩ | ⟨row, instant, hfound, hmore, -, htold⟩
      · cases hfail
      · exact hmore ▸ .update instant hfound htold.symm
  | delete id =>
      obtain ⟨_, mid, hdelete, hdone⟩ := bind_ok hresult
      cases hdone
      rcases delete_cases hdelete with ⟨_, hfail, -⟩ | ⟨hfewer, -⟩
      · cases hfail
      · exact hfewer ▸ .delete
  | reorder places actor =>
      obtain ⟨_, mid, hreorder, hdone⟩ := bind_ok hresult
      cases hdone
      rcases reorder_cases hreorder with ⟨_, hfail, -⟩ | ⟨-, hplaces⟩
      · cases hfail
      · exact .reorder hplaces
  | seed actor =>
      rcases seed_cases hresult with ⟨hdone | ⟨_, hfail⟩, hsame⟩ |
        ⟨_, number, more, hdone, hsome, -, hmore, hgiven, hseeded⟩
      · cases hdone
        exact hsame ▸ .seedNothing
      · cases hfail
      · cases hdone
        rw [author_of_seed hsome hresult] at hseeded
        exact hmore ▸ .seed number hgiven hseeded

/-- What is written on readable rows leaves readable rows. -/
theorem Writes.readable {rows written : List Row} (hwrites : operation.Writes rows given written)
    (hrows : ∀ row ∈ rows, IsResult row.toRule) : ∀ row ∈ written, IsResult row.toRule := by
  cases hwrites with
  | create hrow htold =>
      exact List.forall_mem_append.mpr ⟨hrows, List.forall_mem_singleton.mpr ⟨_, htold⟩⟩
  | update instant hfound htold =>
      intro row hmem
      rcases Row.mem_modify hmem with hold | ⟨old, hold, rfl⟩
      · exact hrows row hold
      · cases hfound.symm.trans hold
        exact ⟨_, htold⟩
  | delete => exact fun row hmem => hrows row (List.mem_of_mem_filter hmem)
  | reorder hplaces =>
      refine hplaces.preserves (fun row displayOrder instant hrow => ?_) hrows
      obtain ⟨hlevel, hconditions⟩ := Row.isResult_toRule_iff.mp hrow
      exact Row.isResult_toRule_iff.mpr ⟨hlevel, hconditions⟩
  | seed number hgiven hseeded =>
      refine List.forall_mem_append.mpr ⟨hrows, fun row hmem => ?_⟩
      obtain ⟨stored, -, htold⟩ := exists_of_mem_forall₂ (forall₂_of_mapM hgiven).flip hmem
      exact ⟨stored, htold⟩
  | seedNothing => exact hrows

/-- An operation on readable rows leaves readable rows. -/
theorem run_readable (hproper : operation.IsProper) (honce : Row.IdsOnce store.rows)
    (hrows : ∀ row ∈ store.rows, IsResult row.toRule)
    (hresult : operation.run store = (outcome, left)) :
    ∀ row ∈ left.rows, IsResult row.toRule := by
  cases outcome with
  | error cause =>
      rw [run_error hproper honce hrows hresult]
      exact hrows
  | ok given => exact (run_ok hresult).readable hrows

/-- Where a row comes from that is left by an operation which ends in some way: it was
there and is not touched, it was there and is touched, or it is inserted. -/
inductive Leaves (operation : Operation) (rows : List Row) (outcome : Outcome (List StoredRule))
    (row : Row) : Prop where
  | kept (hmem : row ∈ rows) (huntouched : row.id ∉ operation.touched outcome)
  | revised {old : Row} (hold : old ∈ rows) (hid : row.id = old.id)
      (hcreatedBy : row.createdBy = old.createdBy) (hcreatedAt : row.createdAt = old.createdAt)
      (htouched : row.id ∈ operation.touched outcome)
      (hauthor : operation.author? = some row.updatedBy)
  | born {stored : StoredRule} (hgiven : stored ∈ operation.inserted outcome)
      (htouched : row.id ∈ operation.touched outcome) (htold : row.toRule = .ok stored)
      (hnew : ∀ old ∈ rows, old.id ≠ row.id) (hauthor : operation.author? = some row.createdBy)
      (hupdatedBy : row.updatedBy = row.createdBy) (hupdatedAt : row.updatedAt = row.createdAt)

/-- A row that is inserted has been written by its author and not been changed. -/
theorem marks_of_inserts {actor : Option String} {rule : Rule} {row : Row}
    (hrow : Row.Inserts actor rule row) :
    row.createdBy = actor ∧ row.updatedBy = row.createdBy ∧ row.updatedAt = row.createdAt := by
  cases hrow with
  | mk instant htier hid => exact ⟨rfl, rfl, rfl⟩

/-- An operation that inserts and gives back what it has inserted keeps all other rows. -/
theorem leaves_of_insertion {actor : Option String} {rows more : List Row}
    (hinserted : operation.inserted (.ok given) = given) (htargets : operation.targets = [])
    (hauthor : operation.author? = some actor) (honce : Row.IdsOnce (rows ++ more))
    (hgiven : more.mapM Row.toRule = .ok given)
    (hmarks : ∀ row ∈ more, row.createdBy = actor ∧ row.updatedBy = row.createdBy ∧
      row.updatedAt = row.createdAt) :
    ∀ row ∈ rows ++ more, operation.Leaves rows (.ok given) row := by
  have hpairs := forall₂_of_mapM hgiven
  have htouched : operation.touched (.ok given) = given.map (·.rule.id) := by
    rw [touched, htargets, hinserted, List.nil_append]
  have hapart : ∀ old ∈ rows, ∀ new ∈ more, old.id ≠ new.id := by
    unfold Row.IdsOnce at honce
    rw [List.map_append] at honce
    intro old hold new hnew
    exact (List.nodup_append.mp honce).2.2 _ (List.mem_map_of_mem hold) _
      (List.mem_map_of_mem hnew)
  intro row hmem
  rcases List.mem_append.mp hmem with hold | hnew
  · refine .kept hold ?_
    rw [htouched, List.mem_map]
    rintro ⟨stored, hstored, hid⟩
    obtain ⟨other, hother, htold⟩ := exists_of_mem_forall₂ hpairs hstored
    exact hapart row hold other hother (hid.symm.trans (Row.columns_of_toRule htold).1)
  · obtain ⟨stored, hstored, htold⟩ := exists_of_mem_forall₂ hpairs.flip hnew
    obtain ⟨hcreatedBy, hupdatedBy, hupdatedAt⟩ := hmarks row hnew
    refine .born (hinserted.symm ▸ hstored) ?_ htold (fun old hold => hapart old hold row hnew)
      (hcreatedBy ▸ hauthor) hupdatedBy hupdatedAt
    rw [htouched, ← (Row.columns_of_toRule htold).1]
    exact List.mem_map_of_mem hstored

/-- Giving places touches the rows that get one. -/
theorem mem_of_places {actor : Option String} {places : List (String × Int)}
    {rows placed : List Row} (hplaces : Row.Places actor places rows placed)
    (honce : Row.IdsOnce rows) :
    ∀ row ∈ placed, (row ∈ rows ∧ row.id ∉ places.map (·.1)) ∨
      (row.id ∈ places.map (·.1) ∧ row.updatedBy = actor ∧ ∃ old ∈ rows, row.id = old.id ∧
        row.createdBy = old.createdBy ∧ row.createdAt = old.createdAt) := by
  induction hplaces with
  | nil => exact fun row hmem => .inl ⟨hmem, List.not_mem_nil⟩
  | @cons id displayOrder rest rows placed instant hrest ih =>
      intro row hmem
      rw [List.map_cons]
      rcases ih (honce.modify fun _ => rfl) row hmem with ⟨hmid, huntouched⟩ |
        ⟨htouched, hactor, mid, hmid, hid, hcreatedBy, hcreatedAt⟩
      · rcases honce.mem_modify hmid with ⟨hold, hother⟩ | ⟨old, hold, rfl, rfl⟩
        · exact .inl ⟨hold, List.not_mem_cons_of_ne_of_not_mem hother huntouched⟩
        · exact .inr ⟨List.mem_cons_self, rfl, old, hold, rfl, rfl, rfl⟩
      · refine .inr ⟨List.mem_cons_of_mem _ htouched, hactor, ?_⟩
        rcases honce.mem_modify hmid with ⟨hold, -⟩ | ⟨old, hold, rfl, rfl⟩
        · exact ⟨mid, hold, hid, hcreatedBy, hcreatedAt⟩
        · exact ⟨old, hold, hid, hcreatedBy, hcreatedAt⟩

/-- Every row after an operation that ends well was kept, revised or born. -/
theorem Writes.leaves {rows written : List Row} (hwrites : operation.Writes rows given written)
    (honce : Row.IdsOnce rows) (honce' : Row.IdsOnce written) :
    ∀ row ∈ written, operation.Leaves rows (.ok given) row := by
  cases hwrites with
  | create hrow htold =>
      refine leaves_of_insertion rfl rfl rfl honce' ?_
        (List.forall_mem_singleton.mpr (marks_of_inserts hrow))
      rw [List.mapM_cons, htold]
      rfl
  | update instant hfound htold =>
      intro row hmem
      rcases honce.mem_modify hmem with ⟨hold, hother⟩ | ⟨old, hold, rfl, rfl⟩
      · exact .kept hold (by simpa [touched, targets, inserted] using hother)
      · exact .revised hold rfl rfl rfl List.mem_cons_self rfl
  | delete =>
      intro row hmem
      obtain ⟨hold, hother⟩ := List.mem_filter.mp hmem
      exact .kept hold (by simpa [touched, targets, inserted] using hother)
  | @reorder places actor _ placed hplaces =>
      intro row hmem
      have htargets : (Operation.reorder places actor).touched (.ok []) = places.map (·.1) :=
        List.append_nil _
      rcases mem_of_places hplaces honce row hmem with ⟨hold, huntouched⟩ |
        ⟨htouched, rfl, old, hold, hid, hcreatedBy, hcreatedAt⟩
      · exact .kept hold (htargets ▸ huntouched)
      · exact .revised hold hid hcreatedBy hcreatedAt (htargets ▸ htouched) rfl
  | seed number hgiven hseeded =>
      refine leaves_of_insertion rfl rfl rfl honce' hgiven fun row hmem => ?_
      obtain ⟨seed, -, hrow⟩ := exists_of_mem_forall₂ hseeded hmem
      exact marks_of_inserts hrow
  | seedNothing => exact fun row hmem => .kept hmem List.not_mem_nil

/-- Every row that is left by an operation on readable rows was kept, revised or born. -/
theorem run_leaves (hproper : operation.IsProper) (honce : Row.IdsOnce store.rows)
    (hrows : ∀ row ∈ store.rows, IsResult row.toRule)
    (hresult : operation.run store = (outcome, left)) :
    ∀ row ∈ left.rows, operation.Leaves store.rows outcome row := by
  cases outcome with
  | error cause =>
      rw [run_error hproper honce hrows hresult]
      exact fun row hmem => .kept hmem List.not_mem_nil
  | ok given =>
      have hadvances := advances_run operation store
      rw [hresult] at hadvances
      exact (run_ok hresult).leaves honce (hadvances.idsOnce honce)

end Operation

end Store

end SkillTiers
