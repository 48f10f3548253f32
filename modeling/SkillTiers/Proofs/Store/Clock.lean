/-
# The clock and the ids of the table

Whatever is done on the store and however it ends, the clock does not go back, each row
is one that was there already or has been marked since with the time of the change, and
ids that occur once go on doing so (`Advances`). This holds of each statement that writes
and passes on to what statements are put together to, a transaction that takes its writes
back included.
-/

import SkillTiers.Proofs.Store.Changes

namespace SkillTiers

namespace Row

/-- Each id occurs once. -/
def IdsOnce (rows : List Row) : Prop :=
  (rows.map (·.id)).Nodup

/-- Rows with one id are one row. -/
theorem IdsOnce.eq {rows : List Row} (honce : IdsOnce rows) {first second : Row}
    (hfirst : first ∈ rows) (hsecond : second ∈ rows) (hid : first.id = second.id) :
    first = second :=
  List.inj_on_of_nodup_map honce hfirst hsecond hid

/-- A changed table has the rows with other ids as they were, and the row that is changed
as it is then. -/
theorem IdsOnce.mem_modify {rows : List Row} (honce : IdsOnce rows) {id : String}
    {change : Row → Row} {row : Row} (hmem : row ∈ modify rows id change) :
    (row ∈ rows ∧ row.id ≠ id) ∨ ∃ old ∈ rows, old.id = id ∧ row = change old := by
  induction rows with
  | nil => cases hmem
  | cons first rest ih =>
      obtain ⟨hfirst, hrest⟩ := List.nodup_cons.mp honce
      rw [modify] at hmem
      by_cases hid : first.id = id
      · rw [if_pos (beq_iff_eq.mpr hid)] at hmem
        rcases List.mem_cons.mp hmem with rfl | hmem
        · exact .inr ⟨first, List.mem_cons_self, hid, rfl⟩
        · refine .inl ⟨List.mem_cons_of_mem _ hmem, fun hsame => hfirst ?_⟩
          exact List.mem_map.mpr ⟨row, hmem, hsame.trans hid.symm⟩
      · rw [if_neg (by simpa using hid)] at hmem
        rcases List.mem_cons.mp hmem with rfl | hmem
        · exact .inl ⟨List.mem_cons_self, hid⟩
        · rcases ih hrest hmem with ⟨hold, hother⟩ | ⟨old, hold, hchanged⟩
          · exact .inl ⟨List.mem_cons_of_mem _ hold, hother⟩
          · exact .inr ⟨old, List.mem_cons_of_mem _ hold, hchanged⟩

/-- Row by row, a changed table has the row with the id changed and the others as they were. -/
theorem IdsOnce.forall₂_modify {rows : List Row} (honce : IdsOnce rows) (id : String)
    (change : Row → Row) :
    List.Forall₂ (fun old new => new = if old.id = id then change old else old) rows
      (Row.modify rows id change) := by
  induction rows with
  | nil => exact .nil
  | cons first rest ih =>
      obtain ⟨hfirst, hrest⟩ := List.nodup_cons.mp honce
      rw [Row.modify]
      by_cases hid : first.id = id
      · rw [if_pos (beq_iff_eq.mpr hid)]
        refine .cons (if_pos hid).symm (List.forall₂_same.mpr fun row hmem => ?_)
        have hother : row.id ≠ id := fun hsame =>
          hfirst (List.mem_map.mpr ⟨row, hmem, hsame.trans hid.symm⟩)
        exact (if_neg hother).symm
      · rw [if_neg (by simpa using hid)]
        exact .cons (if_neg hid).symm (ih hrest)

theorem IdsOnce.modify {rows : List Row} (honce : IdsOnce rows) {id : String}
    {change : Row → Row} (hid : ∀ row, (change row).id = row.id) :
    IdsOnce (modify rows id change) := by
  unfold IdsOnce
  rw [map_id_modify hid]
  exact honce

/-- What a statement may make of rows at an instant: rows that were there and rows that are
marked with the instant, with ids that occur once if they did. -/
structure Written (now : Instant) (rows written : List Row) : Prop where
  dated : ∀ row ∈ written, row ∈ rows ∨ row.updatedAt = now
  idsOnce : IdsOnce rows → IdsOnce written

theorem written_insertRow {now : Instant} {row : Row} (hrow : row.updatedAt = now)
    {rows written : List Row} {given : Row}
    (hinsert : Store.insertRow row rows = .ok (given, written)) : Written now rows written := by
  unfold Store.insertRow at hinsert
  split at hinsert
  · cases hinsert
  · rename_i hnew
    cases hinsert
    refine ⟨fun other hmem => ?_, fun honce => ?_⟩
    · rcases List.mem_append.mp hmem with hold | hlast
      · exact .inl hold
      · exact .inr (List.mem_singleton.mp hlast ▸ hrow)
    · have hother : ∀ other ∈ rows, other.id ≠ row.id := by simpa using hnew
      simpa [IdsOnce, List.nodup_append] using ⟨honce, hother⟩

/-- A change of one row that keeps its id and marks it with the instant. -/
theorem written_modify {now : Instant} {change : Row → Row}
    (hid : ∀ row, (change row).id = row.id) (hdated : ∀ row, (change row).updatedAt = now)
    (rows : List Row) (id : String) : Written now rows (modify rows id change) where
  dated row hmem := by
    rcases mem_modify hmem with hold | ⟨old, -, rfl⟩
    · exact .inl hold
    · exact .inr (hdated old)
  idsOnce honce := honce.modify hid

theorem written_filter (now : Instant) (rows : List Row) (keep : Row → Bool) :
    Written now rows (rows.filter keep) where
  dated _ hmem := .inl (List.mem_of_mem_filter hmem)
  idsOnce honce := honce.sublist (List.filter_sublist.map _)

end Row

namespace Store

variable {α : Type}

/-- The clock has not gone back, the rows that were not there before have been marked since,
and ids occur once if they did. -/
structure Advances (store left : Store) : Prop where
  clock : store.clock ≤ left.clock
  dated : ∀ row ∈ left.rows, row ∈ store.rows ∨
    (store.clock < row.updatedAt ∧ row.updatedAt ≤ left.clock)
  idsOnce : Row.IdsOnce store.rows → Row.IdsOnce left.rows

/-- The same rows at the same time. -/
theorem advances_of_same {store left : Store} (hrows : left.rows = store.rows)
    (hclock : left.clock = store.clock) : Advances store left where
  clock := hclock.ge
  dated _ hmem := .inl (hrows ▸ hmem)
  idsOnce honce := hrows ▸ honce

theorem isFrame_advances : IsFrame Advances where
  refl _ := advances_of_same rfl rfl
  plan _ _ := advances_of_same rfl rfl
  trans first second third hfirst hsecond := by
    refine ⟨hfirst.clock.trans hsecond.clock, fun row hmem => ?_,
      fun honce => hsecond.idsOnce (hfirst.idsOnce honce)⟩
    rcases hsecond.dated row hmem with hmid | ⟨hsince, huntil⟩
    · rcases hfirst.dated row hmid with hold | ⟨hsince, huntil⟩
      · exact .inl hold
      · exact .inr ⟨hsince, huntil.trans hsecond.clock⟩
    · exact .inr ⟨hfirst.clock.trans_lt hsince, huntil⟩

/-- A statement marks what it writes with its instant. -/
theorem advances_execute {write : Instant → List Row → Outcome (α × List Row)}
    (hwrite : ∀ now rows value written, write now rows = .ok (value, written) →
      Row.Written now rows written) : Respects Advances (execute write) := by
  refine isFrame_advances.call fun store => ?_
  dsimp only
  cases hwritten : write (store.clock + 1) store.rows with
  | error failure => exact ⟨Nat.le_succ _, fun row hmem => .inl hmem, id⟩
  | ok result =>
      obtain ⟨value, written⟩ := result
      obtain ⟨hdated, honce⟩ := hwrite _ _ _ _ hwritten
      refine ⟨Nat.le_succ _, fun row hmem => ?_, honce⟩
      rcases hdated row hmem with hold | hnow
      · exact .inl hold
      · exact .inr (by simp [hnow])

/-- What a transaction takes back leaves the clock where it is. -/
theorem advances_transaction {action : Action α} (haction : Respects Advances action) :
    Respects Advances (transaction action) := by
  intro store
  have hadvances := haction store
  unfold transaction
  cases hresult : action store with
  | mk outcome left =>
      rw [hresult] at hadvances
      cases outcome with
      | ok value => exact hadvances
      | error failure => exact ⟨hadvances.clock, fun row hmem => .inl hmem, id⟩

theorem advances_insert (rule : Rule) (actor : Option String) :
    Respects Advances (insert rule actor) := by
  have hrest (id : String) : Respects Advances (do
      let tier ← Action.ofOutcome rule.tier
      Action.ofOutcome rule.storedConditions.checkText
      let row ← execute fun now rows => insertRow (.ofRule id tier rule actor now) rows
      Action.ofOutcome row.toRule : Action StoredRule) := by
    refine isFrame_advances.bind (isFrame_advances.ofOutcome _) fun tier => ?_
    refine isFrame_advances.bind (isFrame_advances.ofOutcome _) fun _ => ?_
    refine isFrame_advances.bind (advances_execute ?_) fun row => isFrame_advances.ofOutcome _
    exact fun now rows given written hinsert => Row.written_insertRow rfl hinsert
  unfold insert
  dsimp only
  split
  · exact isFrame_advances.bind (fun store => advances_of_same rfl rfl) hrest
  · exact hrest rule.id

theorem advances_insertAll (actor : Option String) (rules : List Rule) :
    Respects Advances (insertAll actor rules) := by
  induction rules with
  | nil => exact isFrame_advances.ofOutcome (.ok [])
  | cons rule rest ih =>
      refine isFrame_advances.bind (advances_insert rule actor) fun stored => ?_
      exact isFrame_advances.bind ih fun others => isFrame_advances.ofOutcome (.ok _)

theorem advances_create (rule : Rule) (actor : Option String) :
    Respects Advances (create rule actor) :=
  isFrame_advances.session (advances_insert rule actor) _

theorem advances_update (id : String) (update : RuleUpdate) (actor : Option String) :
    Respects Advances (Store.update id update actor) := by
  refine isFrame_advances.bind (isFrame_advances.ofOutcome _) fun _ => ?_
  refine isFrame_advances.bind (isFrame_advances.session (advances_execute ?_) _) fun row? => ?_
  · rintro now rows row? written ⟨⟩
    apply Row.written_modify <;> exact fun _ => rfl
  · cases row? with
    | none => exact isFrame_advances.ofOutcome _
    | some row => exact isFrame_advances.ofOutcome _

theorem advances_delete (id : String) : Respects Advances (delete id) := by
  refine isFrame_advances.bind (isFrame_advances.session (advances_execute ?_) _)
    fun deleted => isFrame_advances.ofOutcome _
  rintro now rows deleted written ⟨⟩
  exact Row.written_filter now rows _

theorem advances_placeAll (actor : Option String) (places : List (String × Int)) :
    Respects Advances (placeAll actor places) := by
  induction places with
  | nil => exact isFrame_advances.ofOutcome (.ok ())
  | cons place rest ih =>
      refine isFrame_advances.bind (advances_execute ?_) fun _ => ih
      rintro now rows _ written ⟨⟩
      apply Row.written_modify <;> exact fun _ => rfl

theorem advances_reorder (places : List (String × Int)) (actor : Option String) :
    Respects Advances (reorder places actor) :=
  isFrame_advances.session (advances_transaction (advances_placeAll actor places)) _

theorem advances_seed (actor : Option String) : Respects Advances (seed actor) := by
  unfold seed
  cases nonempty? actor with
  | none => exact isFrame_advances.ofOutcome (.ok [])
  | some actor =>
      refine isFrame_advances.session (advances_transaction ?_) _
      refine isFrame_advances.bind (isFrame_advances.query _) fun _ => ?_
      refine isFrame_advances.bind (isFrame_advances.query _) fun hasRows => ?_
      cases hasRows with
      | true => exact isFrame_advances.ofOutcome (.ok [])
      | false =>
          refine isFrame_advances.bind (fun store => advances_of_same rfl rfl) fun rules => ?_
          exact advances_insertAll (some actor) rules

end Store

end SkillTiers
