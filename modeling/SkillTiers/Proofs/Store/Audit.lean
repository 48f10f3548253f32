/-
# The audit columns of the table

A history lists the operations on a table that was empty at first, the latest first, each
with the store on which it was begun. Calls of the database may be set to fail at each of
them. What the rows say of their past agrees with the history (`History.audited_rows`): ids
occur once; every row was inserted by whom and when it says, and has been there since; it
was touched last by whom it says; and over no operation does a row change what it says of
its insertion, or go back in time.

The induction is on the history. It carries along that all rows can be read, without which
a change could fail after it has written, and that no row is from the future.
-/

import SkillTiers.Proofs.Store.Operation

namespace SkillTiers

/-- The row has the id and the birth of another, and was not changed before it was. -/
structure Row.Continues (row old : Row) : Prop where
  id : row.id = old.id
  createdBy : row.createdBy = old.createdBy
  createdAt : row.createdAt = old.createdAt
  updatedAt : old.updatedAt ≤ row.updatedAt

theorem Row.continues_refl (row : Row) : row.Continues row :=
  ⟨rfl, rfl, rfl, le_rfl⟩

theorem Row.Continues.trans {third second first : Row} (hlater : third.Continues second)
    (hearlier : second.Continues first) : third.Continues first where
  id := hlater.id.trans hearlier.id
  createdBy := hlater.createdBy.trans hearlier.createdBy
  createdAt := hlater.createdAt.trans hearlier.createdAt
  updatedAt := hearlier.updatedAt.trans hlater.updatedAt

namespace Store

/-! ### Histories -/

/-- An operation, with the store on which it was begun. -/
structure Moment where
  operation : Operation
  begun : Store

namespace Moment

/-- How the operation ended. -/
def outcome (moment : Moment) : Outcome (List StoredRule) :=
  (moment.operation.run moment.begun).1

/-- The store that was left. -/
def left (moment : Moment) : Store :=
  (moment.operation.run moment.begun).2

theorem run_eq (moment : Moment) :
    moment.operation.run moment.begun = (moment.outcome, moment.left) :=
  rfl

theorem advances (moment : Moment) : Advances moment.begun moment.left :=
  moment.operation.advances_run moment.begun

/-- The rules that were inserted. -/
def inserted (moment : Moment) : List StoredRule :=
  moment.operation.inserted moment.outcome

/-- The ids of the rows that were touched. -/
def touched (moment : Moment) : List String :=
  moment.operation.touched moment.outcome

/-- The row was inserted at the moment, by whom and when it says. -/
structure Bears (moment : Moment) (row : Row) : Prop where
  inserted : ∃ stored ∈ moment.inserted, stored.rule.id = row.id ∧
    stored.createdBy = row.createdBy ∧ stored.createdAt = row.createdAt
  author : moment.operation.author? = some row.createdBy
  after : moment.begun.clock < row.createdAt
  before : row.createdAt ≤ moment.left.clock

/-- Every row that was there already and is left says the same of its birth as it did, and
has not gone back in time. -/
def Ages (moment : Moment) : Prop :=
  ∀ old ∈ moment.begun.rows, ∀ row ∈ moment.left.rows, row.id = old.id → row.Continues old

end Moment

/-- What was done on a table that was empty at first has led to this store. Before each
operation the store may connect or lose its connection, calls may be set to fail and time
may pass; the rows stay. -/
inductive History : List Moment → Store → Prop where
  | start {store : Store} (hempty : store.rows = []) : History [] store
  | next {log : List Moment} {store : Store} {moment : Moment} (hhistory : History log store)
      (hproper : moment.operation.IsProper) (hrows : moment.begun.rows = store.rows)
      (hclock : store.clock ≤ moment.begun.clock) : History (moment :: log) moment.left

/-- The last operation that touched the row with an id. -/
def lastTouch? (log : List Moment) (id : String) : Option Moment :=
  log.find? (·.touched.contains id)

/-- The row was inserted at some moment, by whom and when it says, and has been there since
without going back in time. -/
def WasBorn (log : List Moment) (row : Row) : Prop :=
  ∃ later birth earlier, log = later ++ birth :: earlier ∧ birth.Bears row ∧
    ∀ moment ∈ later ++ [birth], ∃ version ∈ moment.left.rows, row.Continues version

/-- What the row says of its past agrees with what was done. -/
structure Audited (log : List Moment) (row : Row) : Prop where
  birth : WasBorn log row
  updatedBy : ∃ last, lastTouch? log row.id = some last ∧
    last.operation.author? = some row.updatedBy
  updatedAt : row.createdAt ≤ row.updatedAt

/-! ### One more operation -/

variable {log : List Moment} {moment : Moment} {row old : Row}

theorem lastTouch?_of_touched (htouched : row.id ∈ moment.touched) :
    lastTouch? (moment :: log) row.id = some moment :=
  List.find?_cons_of_pos (List.contains_iff_mem.mpr htouched)

theorem lastTouch?_of_untouched (huntouched : row.id ∉ moment.touched) :
    lastTouch? (moment :: log) row.id = lastTouch? log row.id :=
  List.find?_cons_of_neg (mt List.contains_iff_mem.mp huntouched)

/-- A row that is inserted is born at that moment. -/
theorem wasBorn_now (hbears : moment.Bears row) (hmem : row ∈ moment.left.rows) :
    WasBorn (moment :: log) row := by
  refine ⟨[], moment, log, rfl, hbears, fun other hother => ?_⟩
  cases List.mem_singleton.mp hother
  exact ⟨row, hmem, row.continues_refl⟩

/-- The birth of a row stays what it was. -/
theorem WasBorn.next (hborn : WasBorn log old) (hcontinues : row.Continues old)
    (hmem : row ∈ moment.left.rows) : WasBorn (moment :: log) row := by
  obtain ⟨later, birth, earlier, rfl, hbears, hversions⟩ := hborn
  obtain ⟨stored, hstored, hid, hcreatedBy, hcreatedAt⟩ := hbears.inserted
  refine ⟨moment :: later, birth, earlier, rfl, ⟨⟨stored, hstored, ?_, ?_, ?_⟩, ?_, ?_, ?_⟩,
    List.forall_mem_cons.mpr ⟨⟨row, hmem, row.continues_refl⟩, fun other hother => ?_⟩⟩
  · rw [hid, hcontinues.id]
  · rw [hcreatedBy, hcontinues.createdBy]
  · rw [hcreatedAt, hcontinues.createdAt]
  · rw [hcontinues.createdBy]
    exact hbears.author
  · rw [hcontinues.createdAt]
    exact hbears.after
  · rw [hcontinues.createdAt]
    exact hbears.before
  · obtain ⟨version, hversion, hearlier⟩ := hversions other hother
    exact ⟨version, hversion, hcontinues.trans hearlier⟩

/-- A row that an operation leaves under the id of an old one continues it. -/
theorem continues_of_leaves {operation : Operation} {outcome : Outcome (List StoredRule)}
    {store left : Store} (honce : Row.IdsOnce store.rows)
    (hpast : ∀ row ∈ store.rows, row.updatedAt ≤ store.clock) (hadvances : Advances store left)
    (hmem : row ∈ left.rows) (hleaves : operation.Leaves store.rows outcome row)
    (hold : old ∈ store.rows) (hid : row.id = old.id) : row.Continues old := by
  rcases hadvances.dated row hmem with hthere | ⟨hsince, -⟩
  · exact honce.eq hthere hold hid ▸ row.continues_refl
  have hlater : old.updatedAt ≤ row.updatedAt := (hpast old hold).trans hsince.le
  cases hleaves with
  | kept hthere huntouched => exact honce.eq hthere hold hid ▸ row.continues_refl
  | revised hother hid' hcreatedBy hcreatedAt htouched hauthor =>
      cases honce.eq hother hold (hid'.symm.trans hid)
      exact ⟨hid, hcreatedBy, hcreatedAt, hlater⟩
  | born hgiven htouched htold hnew hauthor hupdatedBy hupdatedAt =>
      exact absurd hid.symm (hnew old hold)

/-! ### The whole history -/

/-- What holds of a table after its history. -/
structure Sound (log : List Moment) (store : Store) : Prop where
  idsOnce : Row.IdsOnce store.rows
  readable : ∀ row ∈ store.rows, IsResult row.toRule
  past : ∀ row ∈ store.rows, row.updatedAt ≤ store.clock
  audited : ∀ row ∈ store.rows, Audited log row

section Step

variable {store : Store} (hsound : Sound log store) (hproper : moment.operation.IsProper)
  (hrows : moment.begun.rows = store.rows) (hclock : store.clock ≤ moment.begun.clock)

include hsound hproper hrows hclock

theorem Sound.ages : moment.Ages := by
  have honce : Row.IdsOnce moment.begun.rows := hrows ▸ hsound.idsOnce
  have hpast : ∀ row ∈ moment.begun.rows, row.updatedAt ≤ moment.begun.clock :=
    fun row hmem => (hsound.past row (hrows ▸ hmem)).trans hclock
  have hleaves := Operation.run_leaves hproper honce (hrows ▸ hsound.readable)
    moment.run_eq
  exact fun old hold row hmem hid =>
    continues_of_leaves honce hpast moment.advances hmem (hleaves row hmem) hold hid

/-- What a row says of its past still agrees with what was done after one operation more. -/
theorem Sound.audited_next : ∀ row ∈ moment.left.rows, Audited (moment :: log) row := by
  have hages := hsound.ages hproper hrows hclock
  have honce : Row.IdsOnce moment.begun.rows := hrows ▸ hsound.idsOnce
  intro row hmem
  cases Operation.run_leaves hproper honce (hrows ▸ hsound.readable) moment.run_eq row hmem with
  | kept hthere huntouched =>
      obtain ⟨hbirth, hupdatedBy, hupdatedAt⟩ := hsound.audited row (hrows ▸ hthere)
      refine ⟨hbirth.next row.continues_refl hmem, ?_, hupdatedAt⟩
      rw [lastTouch?_of_untouched huntouched]
      exact hupdatedBy
  | @revised old hold hid hcreatedBy hcreatedAt htouched hauthor =>
      obtain ⟨hbirth, -, hupdatedAt⟩ := hsound.audited old (hrows ▸ hold)
      have hcontinues := hages old hold row hmem hid
      refine ⟨hbirth.next hcontinues hmem, ⟨moment, lastTouch?_of_touched htouched, hauthor⟩, ?_⟩
      rw [hcreatedAt]
      exact hupdatedAt.trans hcontinues.updatedAt
  | @born stored hgiven htouched htold hnew hauthor hupdatedBy hupdatedAt =>
      have hbears : moment.Bears row := by
        rcases moment.advances.dated row hmem with hold | ⟨hsince, huntil⟩
        · exact absurd rfl (hnew row hold)
        · rw [hupdatedAt] at hsince huntil
          exact ⟨⟨stored, hgiven, Row.columns_of_toRule htold⟩, hauthor, hsince, huntil⟩
      refine ⟨wasBorn_now hbears hmem, ⟨moment, lastTouch?_of_touched htouched, ?_⟩,
        hupdatedAt.ge⟩
      rw [hupdatedBy]
      exact hauthor

theorem Sound.next : Sound (moment :: log) moment.left := by
  have honce : Row.IdsOnce moment.begun.rows := hrows ▸ hsound.idsOnce
  refine ⟨moment.advances.idsOnce honce, Operation.run_readable hproper honce
    (hrows ▸ hsound.readable) moment.run_eq, fun row hmem => ?_,
    hsound.audited_next hproper hrows hclock⟩
  rcases moment.advances.dated row hmem with hold | ⟨-, huntil⟩
  · exact ((hsound.past row (hrows ▸ hold)).trans hclock).trans moment.advances.clock
  · exact huntil

end Step

theorem History.sound {store : Store} (hhistory : History log store) : Sound log store := by
  induction hhistory with
  | @start store hempty =>
      constructor
      · rw [hempty]
        exact List.nodup_nil
      · simp [hempty]
      · simp [hempty]
      · simp [hempty]
  | next hhistory hproper hrows hclock ih => exact ih.next hproper hrows hclock

/-- Whatever was done, in whose name and however it ended: ids occur once, what the rows
say of their past agrees with it, and over every operation rows kept their birth and did not
go back in time. -/
theorem History.audited_rows {store : Store} (hhistory : History log store) :
    Row.IdsOnce store.rows ∧ (∀ row ∈ store.rows, Audited log row) ∧
      ∀ moment ∈ log, moment.Ages := by
  have hsound := hhistory.sound
  refine ⟨hsound.idsOnce, hsound.audited, ?_⟩
  clear hsound
  induction hhistory with
  | start hempty => exact fun moment hmem => absurd hmem List.not_mem_nil
  | next hhistory hproper hrows hclock ih =>
      exact List.forall_mem_cons.mpr ⟨hhistory.sound.ages hproper hrows hclock, ih⟩

/-! ### Operations done one after the other -/

/-- The log of operations that are done one after the other, the first of them last in the
list, and the store that they leave. At each of them calls are set to fail as planned. -/
def record (first : Store) : List (Operation × Outage) → List Moment × Store
  | [] => ([], first)
  | (operation, outage) :: rest =>
    let moment : Moment := ⟨operation, { (record first rest).2 with outage }⟩
    (moment :: (record first rest).1, moment.left)

/-- Whatever is done one after the other on an empty table is a history. -/
theorem history_record {first : Store} (hempty : first.rows = [])
    {steps : List (Operation × Outage)} (hproper : ∀ step ∈ steps, step.1.IsProper) :
    History (record first steps).1 (record first steps).2 := by
  induction steps with
  | nil => exact .start hempty
  | cons step rest ih =>
      obtain ⟨hstep, hrest⟩ := List.forall_mem_cons.mp hproper
      exact .next (ih hrest) hstep rfl le_rfl

/-- Two rules are created, the second only once it has an id of its own; putting them in
order fails half-way; each is changed, one of them by nobody; a third one comes and goes. -/
def busyDay : List (Operation × Outage) := [
  (.delete "c", .never),
  (.create ⟨"c", "expert", [], 3, true⟩ (some "ann"), .never),
  (.reorder [("b", 5)] none, .never),
  (.update "a" ⟨some "intermediate", none, none, none⟩ (some "dora"), .never),
  (.reorder [("a", 2), ("b", 1)] (some "carl"), ⟨.postgres, 1, 1⟩),
  (.create ⟨"b", "beginner", [], 2, true⟩ (some "bob"), .never),
  (.create ⟨"a", "beginner", [], 2, true⟩ (some "bob"), .never),
  (.create ⟨"a", "expert", [], 1, true⟩ (some "ann"), .never)]

/-- What the two rules say of their past then. -/
theorem audited_busyDay :
    (record (.ofRows [] true) busyDay).2.rows.map
        (fun row => (row.id, row.createdBy, row.updatedBy, row.createdAt, row.updatedAt)) =
      [("a", some "ann", some "dora", 1, 5), ("b", some "bob", none, 3, 6)] ∧
    Row.IdsOnce (record (.ofRows [] true) busyDay).2.rows ∧
    (∀ row ∈ (record (.ofRows [] true) busyDay).2.rows,
      Audited (record (.ofRows [] true) busyDay).1 row) ∧
    ∀ moment ∈ (record (.ofRows [] true) busyDay).1, moment.Ages := by
  have hproper : ∀ step ∈ busyDay, step.1.IsProper := by
    simp [busyDay, Operation.IsProper, RuleUpdate.IsProper, Condition.AreProper,
      Condition.allThresholds]
  exact ⟨by decide +kernel, (history_record rfl hproper).audited_rows⟩

end Store

end SkillTiers
