/-
# What changes of the store do to the rows

Each change either fails and leaves the rows as they were, or it writes: then the
rows are exactly those of the change, and all that can still fail is giving back
what was written. One law per change says so: `create_cases`, `update_cases`,
`delete_cases`, `reorder_cases` and `seed_cases`. They rest on how a session with one
statement or one transaction in it ends (`session_execute_cases`,
`session_transaction_cases`).
-/

import SkillTiers.Proofs.Store.Frame
import SkillTiers.Proofs.Store.Row

namespace SkillTiers

namespace Row

/-- The row is one that inserting a rule can write: under the id of the rule if it has
one. -/
inductive Inserts (actor : Option String) (rule : Rule) : Row → Prop where
  | mk {id : String} {tier : Tier} (instant : Instant) (htier : rule.tier = .ok tier)
      (hid : rule.id.isEmpty = false → id = rule.id) :
      Inserts actor rule (.ofRule id tier rule actor instant)

/-- The rows that can stand there when rules have been given places, one by one. -/
inductive Places (actor : Option String) : List (String × Int) → List Row → List Row → Prop where
  | nil {rows : List Row} : Places actor [] rows rows
  | cons {id : String} {displayOrder : Int} {rest : List (String × Int)} {rows placed : List Row}
      (instant : Instant)
      (hrest : Places actor rest
        (modify rows id fun row => ({ row with displayOrder }).stamped actor instant) placed) :
      Places actor ((id, displayOrder) :: rest) rows placed

/-- What is changed in the first row with an id is found under that id. -/
theorem find?_modify (rows : List Row) {id : String} (change : Row → Row)
    (hid : ∀ row, (change row).id = row.id) :
    find? (modify rows id change) id = (find? rows id).map change := by
  induction rows with
  | nil => rfl
  | cons row rest ih =>
      unfold find? at ih ⊢
      by_cases hrow : row.id = id
      · simp [modify, hrow, hid]
      · simp [modify, hrow, ih]

/-- Where no row has the id, nothing is changed. -/
theorem modify_of_find?_none {rows : List Row} {id : String} {change : Row → Row}
    (hnone : find? rows id = none) : modify rows id change = rows := by
  induction rows with
  | nil => rfl
  | cons row rest ih =>
      unfold find? at ih hnone
      rw [List.find?_cons] at hnone
      split at hnone
      · cases hnone
      · rename_i hrow
        rw [modify, hrow, if_neg Bool.false_ne_true, ih hnone]

/-- The change of a row may be worked out before. -/
theorem modify_found {rows : List Row} {id : String} {row : Row}
    (hfound : find? rows id = some row) (change : Row → Row) :
    (modify rows id fun _ => change row) = modify rows id change := by
  induction rows with
  | nil => rfl
  | cons first rest ih =>
      unfold find? at ih hfound
      rw [List.find?_cons] at hfound
      rw [modify, modify]
      split at hfound
      · rename_i hfirst
        cases hfound
        rw [if_pos hfirst, if_pos hfirst]
      · rename_i hfirst
        rw [hfirst, if_neg Bool.false_ne_true, if_neg Bool.false_ne_true, ih hfound]

/-- A changed table has the row that is changed, as it is then, and other rows as they
were. -/
theorem mem_modify {rows : List Row} {id : String} {change : Row → Row} {row : Row}
    (hmem : row ∈ modify rows id change) :
    row ∈ rows ∨ ∃ old, find? rows id = some old ∧ row = change old := by
  induction rows with
  | nil => exact .inl hmem
  | cons first rest ih =>
      rw [modify] at hmem
      split at hmem
      · rename_i hfirst
        rcases List.mem_cons.mp hmem with rfl | hrest
        · exact .inr ⟨first,
            List.find?_cons_of_pos (p := fun row : Row => row.id == id) hfirst, rfl⟩
        · exact .inl (List.mem_cons_of_mem _ hrest)
      · rename_i hfirst
        rcases List.mem_cons.mp hmem with rfl | hrest
        · exact .inl List.mem_cons_self
        · rcases ih hrest with hold | ⟨old, hfound, hchanged⟩
          · exact .inl (List.mem_cons_of_mem _ hold)
          · exact .inr ⟨old, (List.find?_cons_of_neg (p := fun row : Row => row.id == id)
              hfirst).trans hfound, hchanged⟩

/-- What depends neither on the place nor on the mark of a row is kept by giving places. -/
theorem Places.preserves {actor : Option String} {places : List (String × Int)}
    {rows placed : List Row} (hplaces : Places actor places rows placed) {holds : Row → Prop}
    (hkept : ∀ row displayOrder instant, holds row →
      holds (({ row with displayOrder } : Row).stamped actor instant))
    (hrows : ∀ row ∈ rows, holds row) : ∀ row ∈ placed, holds row := by
  induction hplaces with
  | nil => exact hrows
  | @cons id displayOrder rest rows placed instant hrest ih =>
      apply ih
      intro row hmem
      rcases mem_modify hmem with hold | ⟨old, hfound, rfl⟩
      · exact hrows row hold
      · exact hkept old displayOrder instant (hrows old (List.mem_of_find?_eq_some hfound))

/-- A change that keeps the id keeps all ids in place. -/
theorem map_id_modify {change : Row → Row} (hid : ∀ row, (change row).id = row.id)
    (rows : List Row) (id : String) : (modify rows id change).map (·.id) = rows.map (·.id) := by
  induction rows with
  | nil => rfl
  | cons row rest ih =>
      rw [modify]
      split
      · rw [List.map_cons, List.map_cons, hid]
      · rw [List.map_cons, List.map_cons, ih]

end Row

namespace Store

variable {α β : Type} {store left : Store} {actor : Option String}

/-! ### How actions end -/

/-- The second of two actions is done only if the first ends well. -/
theorem bind_cases {action : Action α} {rest : α → Action β} {outcome : Outcome β}
    (hresult : (action >>= rest) store = (outcome, left)) :
    (∃ failure, outcome = .error failure ∧ action store = (.error failure, left)) ∨
      ∃ value mid, action store = (.ok value, mid) ∧ rest value mid = (outcome, left) := by
  change Action.bind action rest store = _ at hresult
  unfold Action.bind at hresult
  cases hfirst : action store with
  | mk first mid =>
      rw [hfirst] at hresult
      cases first with
      | ok value => exact .inr ⟨value, mid, rfl, hresult⟩
      | error failure =>
          cases hresult
          exact .inl ⟨failure, rfl, rfl⟩

/-- An outcome that is there already is a failure, or the rest goes on from it. -/
theorem ofOutcome_bind_cases {ended : Outcome α} {rest : α → Action β} {outcome : Outcome β}
    (hresult : (Action.ofOutcome ended >>= rest) store = (outcome, left)) :
    (∃ failure, ended = .error failure ∧ outcome = .error failure ∧ left = store) ∨
      ∃ value, ended = .ok value ∧ rest value store = (outcome, left) := by
  rcases bind_cases hresult with ⟨failure, houtcome, hfirst⟩ | ⟨value, mid, hfirst, hrest⟩
  · obtain ⟨hended, hsame⟩ := Prod.mk.inj hfirst
    exact .inl ⟨failure, hended, houtcome, hsame.symm⟩
  · obtain ⟨hended, rfl⟩ := Prod.mk.inj hfirst
    exact .inr ⟨value, hended, hrest⟩

/-- A session needs a connection; it may put a fault into other words, and leaves every
other outcome as it is. -/
theorem session_cases {action : Action α} {message : String} {outcome : Outcome α}
    (hresult : session message action store = (outcome, left)) :
    (outcome = .error notStarted ∧ left = store) ∨
      (store.isConnected = true ∧ ∃ inner, action store = (inner, left) ∧
        (outcome = inner ∨ ∃ fault, inner = .error (.fault fault) ∧
          outcome = .error (failure message fault))) := by
  unfold session at hresult
  split at hresult
  · rename_i hconnected
    refine .inr ⟨hconnected, ?_⟩
    unfold Action.reporting at hresult
    cases hinner : action store with
    | mk inner mid =>
        rw [hinner] at hresult
        split at hresult
        · rename_i fault reached hsame
          cases hsame
          cases hresult
          by_cases hexpected : fault.isDatabase = true
          · rw [if_pos hexpected]
            exact ⟨_, rfl, .inr ⟨fault, rfl, rfl⟩⟩
          · rw [if_neg hexpected]
            exact ⟨_, rfl, .inl rfl⟩
        · cases hresult
          exact ⟨_, rfl, .inl rfl⟩
  · cases hresult
    exact .inl ⟨rfl, rfl⟩

/-- A session ends well exactly where its action does. -/
theorem session_ends {action : Action α} {message : String} {outcome : Outcome α}
    (hresult : session message action store = (outcome, left)) :
    (∃ failure, outcome = .error failure ∧
        (left = store ∨ ∃ cause, action store = (.error cause, left))) ∨
      ∃ value, outcome = .ok value ∧ store.isConnected = true ∧
        action store = (.ok value, left) := by
  rcases session_cases hresult with ⟨hlone, hsame⟩ | ⟨hconnected, inner, hinner, rfl | hworded⟩
  · exact .inl ⟨_, hlone, .inl hsame⟩
  · cases outcome with
    | error cause => exact .inl ⟨cause, rfl, .inr ⟨cause, hinner⟩⟩
    | ok value => exact .inr ⟨value, rfl, hconnected, hinner⟩
  · obtain ⟨fault, rfl, hfault⟩ := hworded
    exact .inl ⟨_, hfault, .inr ⟨_, hinner⟩⟩

/-- A statement fails and writes nothing, or it writes as it says. -/
theorem execute_cases {write : Instant → List Row → Outcome (α × List Row)}
    {outcome : Outcome α} (hresult : execute write store = (outcome, left)) :
    (∃ failure, outcome = .error failure ∧ left.rows = store.rows) ∨
      ∃ value, write (store.clock + 1) store.rows = .ok (value, left.rows) ∧
        outcome = .ok value ∧ left.isConnected = store.isConnected := by
  unfold execute call at hresult
  cases hnext : store.outage.next with
  | mk fault? outage =>
      rw [hnext] at hresult
      cases fault? with
      | some fault =>
          cases hresult
          exact .inl ⟨_, rfl, rfl⟩
      | none =>
          dsimp only at hresult
          cases hwrite : write (store.clock + 1) store.rows with
          | error failure =>
              rw [hwrite] at hresult
              cases hresult
              exact .inl ⟨_, rfl, rfl⟩
          | ok written =>
              rw [hwrite] at hresult
              cases hresult
              exact .inr ⟨_, rfl, rfl, rfl⟩

/-- So does a statement in a session of its own. -/
theorem session_execute_cases {write : Instant → List Row → Outcome (α × List Row)}
    {message : String} {outcome : Outcome α}
    (hresult : session message (execute write) store = (outcome, left)) :
    (∃ failure, outcome = .error failure ∧ left.rows = store.rows) ∨
      ∃ value, write (store.clock + 1) store.rows = .ok (value, left.rows) ∧
        outcome = .ok value ∧ left.isConnected = true := by
  rcases session_ends hresult with ⟨failure, rfl, rfl | ⟨cause, hinner⟩⟩ |
    ⟨value, rfl, hconnected, hinner⟩
  · exact .inl ⟨failure, rfl, rfl⟩
  · rcases execute_cases hinner with ⟨_, -, hrows⟩ | ⟨_, -, hended, -⟩
    · exact .inl ⟨failure, rfl, hrows⟩
    · cases hended
  · rcases execute_cases hinner with ⟨_, hended, -⟩ | ⟨_, hrows, hended, hkept⟩
    · cases hended
    · cases hended
      exact .inr ⟨value, hrows, rfl, hkept.trans hconnected⟩

/-- A transaction fails and writes nothing, or it does what its action does. -/
theorem transaction_cases {action : Action α} {outcome : Outcome α}
    (hresult : transaction action store = (outcome, left)) :
    (∃ failure, outcome = .error failure ∧ left.rows = store.rows) ∨
      ∃ value, action store = (.ok value, left) ∧ outcome = .ok value := by
  unfold transaction at hresult
  cases hinner : action store with
  | mk inner mid =>
      rw [hinner] at hresult
      cases inner with
      | error failure =>
          cases hresult
          exact .inl ⟨_, rfl, rfl⟩
      | ok value =>
          cases hresult
          exact .inr ⟨_, rfl, rfl⟩

/-- So does a transaction in a session of its own. -/
theorem session_transaction_cases {action : Action α} {message : String} {outcome : Outcome α}
    (hresult : session message (transaction action) store = (outcome, left)) :
    (∃ failure, outcome = .error failure ∧ left.rows = store.rows) ∨
      ∃ value, action store = (.ok value, left) ∧ outcome = .ok value := by
  rcases session_ends hresult with ⟨failure, rfl, rfl | ⟨cause, hinner⟩⟩ | ⟨value, rfl, -, hinner⟩
  · exact .inl ⟨failure, rfl, rfl⟩
  · rcases transaction_cases hinner with ⟨_, -, hrows⟩ | ⟨_, -, hended⟩
    · exact .inl ⟨failure, rfl, hrows⟩
    · cases hended
  · exact .inr ⟨value, transaction_ok hinner, rfl⟩

/-! ### Reading -/

/-- What the store gives back under an id is the rule in the first row with it. -/
theorem get_ok {id : String} {stored? : Option StoredRule}
    (hresult : get id store = (.ok stored?, left)) :
    ∀ stored ∈ stored?, ∃ row, Row.find? store.rows id = some row ∧ row.toRule = .ok stored := by
  rintro stored ⟨⟩
  obtain ⟨row?, mid, hquery, hrest⟩ := bind_ok (session_ok hresult)
  cases row? with
  | none => cases hrest
  | some row =>
      refine ⟨row, (query_ok hquery).1.symm, ?_⟩
      cases hrule : row.toRule with
      | error failure =>
          simp only [hrule, Functor.map, Action.ofOutcome, Action.bind] at hrest
          cases hrest
      | ok found =>
          simp only [hrule, Functor.map, Action.ofOutcome, Action.bind] at hrest
          cases hrest
          rfl

/-- Fetching the rules fails for want of a connection, by a fault, or on account of the
data in the rows. -/
theorem fetchAll_error {cause : Failure} (hresult : fetchAll store = (.error cause, left)) :
    cause = notStarted ∨ cause.IsOfData ∨
      ∃ fault, cause = .fault fault ∨ cause = failure "Failed to load rules" fault := by
  rcases session_cases hresult with ⟨hlone, -⟩ | ⟨-, inner, hinner, houtcome⟩
  · exact .inl (Except.error.inj hlone)
  rcases houtcome with rfl | ⟨fault, -, hfault⟩
  · rcases bind_cases hinner with ⟨_, hsame, hquery⟩ | ⟨rows, mid, -, hrules⟩
    · cases hsame
      unfold query call at hquery
      cases hnext : store.outage.next with
      | mk fault? outage =>
          rw [hnext] at hquery
          cases fault? with
          | none => cases hquery
          | some fault =>
              cases hquery
              exact .inr (.inr ⟨fault, .inl rfl⟩)
    · exact .inr (.inl (failsWithin_mapM Row.failsWithin_toRule rows cause
        (Prod.mk.inj hrules).1))
  · exact .inr (.inr ⟨fault, .inr (Except.error.inj hfault)⟩)

/-! ### Creating -/

/-- The writing of a rule under an id. -/
private theorem insertAs_cases {rule : Rule} {id : String}
    (hid : rule.id.isEmpty = false → id = rule.id) {outcome : Outcome StoredRule}
    (hresult : (do
      let tier ← Action.ofOutcome rule.tier
      Action.ofOutcome rule.storedConditions.checkText
      let row ← execute fun now rows => insertRow (.ofRule id tier rule actor now) rows
      Action.ofOutcome row.toRule : Action StoredRule) store = (outcome, left)) :
    (∃ failure, outcome = .error failure ∧ left.rows = store.rows) ∨
      ∃ row, Row.Inserts actor rule row ∧ store.rows.any (·.id == row.id) = false ∧
        left.rows = store.rows ++ [row] ∧ left.isConnected = store.isConnected ∧
        outcome = row.toRule := by
  rcases ofOutcome_bind_cases hresult with ⟨failure, -, rfl, rfl⟩ | ⟨tier, hknown, hresult⟩
  · exact .inl ⟨failure, rfl, rfl⟩
  rcases ofOutcome_bind_cases hresult with ⟨failure, -, rfl, rfl⟩ | ⟨_, -, hresult⟩
  · exact .inl ⟨failure, rfl, rfl⟩
  rcases bind_cases hresult with ⟨failure, rfl, hwrite⟩ | ⟨row, written, hwrite, hresult⟩
  · rcases execute_cases hwrite with ⟨_, -, hsame⟩ | ⟨row, -, hrow, -⟩
    · exact .inl ⟨failure, rfl, hsame⟩
    · cases hrow
  rcases execute_cases hwrite with ⟨failure, hfail, -⟩ | ⟨_, hinsert, hrow, hkept⟩
  · cases hfail
  · cases hrow
    cases hresult
    unfold insertRow at hinsert
    split at hinsert
    · cases hinsert
    · rename_i hnew
      obtain ⟨rfl, hlonger⟩ := Prod.mk.inj (Except.ok.inj hinsert)
      exact .inr ⟨_, .mk _ hknown hid, Bool.eq_false_iff.mpr hnew, hlonger.symm, hkept, rfl⟩

/-- Inserting a rule writes nothing, or one more row, which is then given back. -/
theorem insert_cases {rule : Rule} {outcome : Outcome StoredRule}
    (hresult : insert rule actor store = (outcome, left)) :
    (∃ failure, outcome = .error failure ∧ left.rows = store.rows) ∨
      ∃ row, Row.Inserts actor rule row ∧ store.rows.any (·.id == row.id) = false ∧
        left.rows = store.rows ++ [row] ∧ left.isConnected = store.isConnected ∧
        outcome = row.toRule := by
  unfold insert at hresult
  dsimp only at hresult
  split at hresult
  · rename_i hempty
    rcases bind_cases hresult with ⟨_, -, hname⟩ | ⟨id, named, hname, hresult⟩
    · cases hname
    · obtain ⟨-, rfl⟩ := Prod.mk.inj hname
      have hnamed : rule.id.isEmpty = false → id = rule.id :=
        fun h => absurd (hempty.symm.trans h) (by decide)
      have hcases := insertAs_cases hnamed hresult
      exact hcases
  · exact insertAs_cases (fun _ => rfl) hresult

/-- Creating a rule writes nothing, or one more row, which is then given back. -/
theorem create_cases {rule : Rule} {outcome : Outcome StoredRule}
    (hresult : create rule actor store = (outcome, left)) :
    (∃ failure, outcome = .error failure ∧ left.rows = store.rows) ∨
      ∃ row, Row.Inserts actor rule row ∧ store.rows.any (·.id == row.id) = false ∧
        left.rows = store.rows ++ [row] ∧ left.isConnected = true ∧ outcome = row.toRule := by
  rcases session_cases hresult with ⟨hfail, rfl⟩ | ⟨hconnected, inner, hinsert, hinner⟩
  · exact .inl ⟨_, hfail, rfl⟩
  -- What the row says may be an error of its own, so how the session ends is not enough.
  · rcases insert_cases hinsert with ⟨failure, rfl, hrows⟩ | ⟨row, hrow, hnew, hrows, hkept, rfl⟩
    · rcases hinner with rfl | ⟨_, -, rfl⟩
      · exact .inl ⟨_, rfl, hrows⟩
      · exact .inl ⟨_, rfl, hrows⟩
    · rcases hinner with hsame | ⟨fault, hfault, -⟩
      · exact .inr ⟨row, hrow, hnew, hrows, hkept.trans hconnected, hsame⟩
      · exact absurd (Row.failsWithin_toRule row _ hfault) id

/-! ### Updating -/

/-- Updating a rule writes nothing, or the row of the rule with the update, which is
then given back. -/
theorem update_cases {id : String} {update : RuleUpdate} {outcome : Outcome StoredRule}
    (hresult : Store.update id update actor store = (outcome, left)) :
    (∃ failure, outcome = .error failure ∧ left.rows = store.rows) ∨
      ∃ row instant, Row.find? store.rows id = some row ∧
        left.rows = (Row.modify store.rows id fun row =>
          (row.updated update).stamped actor instant) ∧
        left.isConnected = true ∧
        outcome = ((row.updated update).stamped actor instant).toRule := by
  unfold Store.update at hresult
  rcases ofOutcome_bind_cases hresult with ⟨failure, -, rfl, rfl⟩ | ⟨_, -, hresult⟩
  · exact .inl ⟨failure, rfl, rfl⟩
  · rcases bind_cases hresult with ⟨failure, rfl, hwrite⟩ | ⟨row?, written, hwrite, hresult⟩
    · rcases session_execute_cases hwrite with ⟨_, -, hrows⟩ | ⟨_, -, hended, -⟩
      · exact .inl ⟨failure, rfl, hrows⟩
      · cases hended
    · rcases session_execute_cases hwrite with ⟨_, hended, -⟩ | ⟨_, hrows, hended, hconnected⟩
      · cases hended
      · cases hended
        obtain ⟨hfound, hrows⟩ := Prod.mk.inj (Except.ok.inj hrows)
        rw [Row.find?_modify store.rows
          (fun row => (row.updated update).stamped actor (store.clock + 1))
          fun _ => rfl] at hfound
        cases hrow : Row.find? store.rows id with
        | none =>
            rw [hrow] at hfound
            rw [← hfound] at hresult
            cases hresult
            exact .inl ⟨_, rfl, hrows.symm.trans (Row.modify_of_find?_none hrow)⟩
        | some row =>
            rw [hrow] at hfound
            rw [← hfound] at hresult
            cases hresult
            exact .inr ⟨row, _, rfl, hrows.symm, hconnected, rfl⟩

/-! ### Deleting -/

/-- Deleting a rule writes nothing, or every row with its id goes; it counts as found
only if that was one. -/
theorem delete_cases {id : String} {outcome : Outcome Unit}
    (hresult : delete id store = (outcome, left)) :
    (∃ failure, outcome = .error failure ∧ left.rows = store.rows) ∨
      (left.rows = store.rows.filter (·.id != id) ∧
        outcome = if store.rows.countP (·.id == id) = 1 then .ok () else .error (notFound id)) := by
  unfold delete at hresult
  rcases bind_cases hresult with ⟨failure, rfl, hwrite⟩ | ⟨deleted, written, hwrite, hresult⟩
  · rcases session_execute_cases hwrite with ⟨_, -, hrows⟩ | ⟨_, -, hended, -⟩
    · exact .inl ⟨failure, rfl, hrows⟩
    · cases hended
  · obtain ⟨hfound, hrows⟩ : deleted = store.rows.countP (·.id == id) ∧
        written.rows = store.rows.filter (·.id != id) := by
      rcases session_execute_cases hwrite with ⟨_, hended, -⟩ | ⟨_, hrows, hended, -⟩
      · cases hended
      · cases hended
        obtain ⟨hfound, hrows⟩ := Prod.mk.inj (Except.ok.inj hrows)
        exact ⟨hfound.symm, hrows.symm⟩
    obtain ⟨houtcome, rfl⟩ := Prod.mk.inj hresult
    refine .inr ⟨hrows, ?_⟩
    rw [← houtcome, hfound]
    simp only [beq_iff_eq]

/-! ### Putting in order -/

/-- Giving places one by one writes them if it ends well. -/
theorem placeAll_ok {places : List (String × Int)} {placed : Unit}
    (hresult : placeAll actor places store = (.ok placed, left)) :
    Row.Places actor places store.rows left.rows := by
  induction places generalizing store with
  | nil =>
      cases hresult
      exact .nil
  | cons place rest ih =>
      obtain ⟨id, displayOrder⟩ := place
      rw [placeAll] at hresult
      obtain ⟨_, mid, hplace, hrest⟩ := bind_ok hresult
      rcases execute_cases hplace with ⟨_, hfail, -⟩ | ⟨_, hrows, -, -⟩
      · cases hfail
      · obtain ⟨-, hrows⟩ := Prod.mk.inj (Except.ok.inj hrows)
        refine .cons (store.clock + 1) ?_
        rw [hrows]
        exact ih hrest

/-- Putting rules in order writes nothing, or all their places. -/
theorem reorder_cases {places : List (String × Int)} {outcome : Outcome Unit}
    (hresult : reorder places actor store = (outcome, left)) :
    (∃ failure, outcome = .error failure ∧ left.rows = store.rows) ∨
      (outcome = .ok () ∧ Row.Places actor places store.rows left.rows) := by
  rcases session_transaction_cases hresult with hfail | ⟨_, hplaced, rfl⟩
  · exact .inl hfail
  · exact .inr ⟨rfl, placeAll_ok hplaced⟩

/-! ### Seeding -/

/-- Inserting rules writes a row for each of them if it ends well, and gives back what
they say. -/
theorem insertAll_rows {rules : List Rule} {stored : List StoredRule}
    (hresult : insertAll actor rules store = (.ok stored, left)) :
    ∃ rows, left.rows = store.rows ++ rows ∧ rows.mapM Row.toRule = .ok stored ∧
      List.Forall₂ (Row.Inserts actor) rules rows := by
  induction rules generalizing store stored with
  | nil =>
      cases hresult
      exact ⟨[], (List.append_nil _).symm, rfl, .nil⟩
  | cons rule rest ih =>
      rw [insertAll] at hresult
      obtain ⟨first, mid, hfirst, hrest⟩ := bind_ok hresult
      obtain ⟨others, last, hothers, hall⟩ := bind_ok hrest
      cases hall
      obtain ⟨rows, hrows, hgiven, hinserts⟩ := ih hothers
      rcases insert_cases hfirst with ⟨_, hfail, -⟩ | ⟨row, hrow, -, hmid, -, htold⟩
      · cases hfail
      · refine ⟨row :: rows, ?_, ?_, .cons hrow hinserts⟩
        · rw [hrows, hmid, List.append_assoc, List.singleton_append]
        · rw [List.mapM_cons, ← htold, hgiven]
          rfl

/-- Seeding writes nothing, and reports no rules if it ends well then; or it writes the
seed rules and gives back what their rows say. -/
theorem seed_cases {outcome : Outcome (List StoredRule)}
    (hresult : seed actor store = (outcome, left)) :
    ((outcome = .ok [] ∨ ∃ failure, outcome = .error failure) ∧ left.rows = store.rows) ∨
      ∃ created number rows, outcome = .ok created ∧ created ≠ [] ∧ hasRows store.rows = false ∧
        left.rows = store.rows ++ rows ∧ rows.mapM Row.toRule = .ok created ∧
        List.Forall₂ (Row.Inserts (nonempty? actor)) (Seed.rules number) rows := by
  unfold seed at hresult
  cases hactor : nonempty? actor with
  | none =>
      rw [hactor] at hresult
      cases hresult
      exact .inl ⟨.inl rfl, rfl⟩
  | some actor =>
      rw [hactor] at hresult
      rcases session_transaction_cases hresult with ⟨failure, rfl, hrows⟩ | ⟨created, hseed, rfl⟩
      · exact .inl ⟨.inr ⟨failure, rfl⟩, hrows⟩
      · obtain ⟨_, locked, hlock, hrest⟩ := bind_ok hseed
        obtain ⟨some?, counted, hcount, hrest⟩ := bind_ok hrest
        have hrows : counted.rows = store.rows :=
          (query_ok hcount).2.trans (query_ok hlock).2
        have hfound : some? = hasRows store.rows := by
          rw [(query_ok hcount).1, (query_ok hlock).2]
        cases some? with
        | true =>
            cases hrest
            exact .inl ⟨.inl rfl, hrows⟩
        | false =>
            obtain ⟨rules, named, hnamed, hinsert⟩ := bind_ok hrest
            cases hnamed
            obtain ⟨rows, hmore, hgiven, hinserts⟩ := insertAll_rows hinsert
            have hlength := insertAll_ok hinsert
            refine .inr ⟨created, _, rows, rfl, ?_, hfound.symm, hmore.trans ?_, hgiven, hinserts⟩
            · rintro rfl
              cases hlength
            · rw [hrows]

/-- Seeding that reports no rules has left the rows as they were. -/
theorem seed_nothing (hresult : seed actor store = (.ok [], left)) : left.rows = store.rows := by
  rcases seed_cases hresult with ⟨-, hrows⟩ | ⟨_, _, _, hcreated, hsome, -⟩
  · exact hrows
  · exact absurd (Except.ok.inj hcreated).symm hsome

end Store

end SkillTiers
