/-
# Putting rules in order

Rules are given their places one by one, each by a statement of its own, and a rule may be
named several times or not be there. Where all statements go well, every row that is named
has the last of its places and every other row is as it was (`Row.Places.placed`). Where one
of them does not, whichever it is and however it fails, the transaction takes back those
before it, and every row is as it was (`Store.reorder_all_or_nothing`).
-/

import SkillTiers.Proofs.Store.Clock

namespace SkillTiers

/-- The next calls, so many of them, go well. -/
def Outage.Spares (outage : Outage) (calls : Nat) : Prop :=
  outage.times = 0 ∨ calls ≤ outage.after

theorem Outage.spares_zero (outage : Outage) : outage.Spares 0 :=
  .inr (Nat.zero_le _)

/-- One more call goes well if the next one does, and those after it do then. -/
theorem Outage.spares_succ (outage : Outage) (calls : Nat) :
    outage.Spares (calls + 1) ↔ outage.next.1 = none ∧ outage.next.2.Spares calls := by
  obtain ⟨fault, after, times⟩ := outage
  unfold Spares next
  cases after with
  | succ after => simp
  | zero =>
      cases times with
      | zero => simp
      | succ times => simp

namespace Row

/-- The row is the other one as it stands when places have been given: in the last place that
is given to it, and marked by the actor; it is as it was if it is given none. -/
structure Placed (places : List (String × Int)) (actor : Option String) (row placed : Row) :
    Prop where
  named : ∀ front displayOrder back, places = front ++ (row.id, displayOrder) :: back →
    row.id ∉ back.map (·.1) → placed.displayOrder = displayOrder ∧ placed.updatedBy = actor
  notNamed : row.id ∉ places.map (·.1) → placed = row
  id : placed.id = row.id
  level : placed.level = row.level
  conditions : placed.conditions = row.conditions
  isActive : placed.isActive = row.isActive
  createdBy : placed.createdBy = row.createdBy
  createdAt : placed.createdAt = row.createdAt

theorem placed_nil (actor : Option String) (row : Row) : Placed [] actor row row where
  named front _ _ hplaces := by
    cases front <;> cases hplaces
  notNamed _ := rfl
  id := rfl
  level := rfl
  conditions := rfl
  isActive := rfl
  createdBy := rfl
  createdAt := rfl

/-- A place counts unless another one follows for the row. -/
theorem Placed.cons {id : String} {displayOrder : Int} {rest : List (String × Int)}
    {actor : Option String} {instant : Instant} {row mid placed : Row}
    (hmid : mid = if row.id = id then ({ row with displayOrder } : Row).stamped actor instant
      else row)
    (hrest : Placed rest actor mid placed) :
    Placed ((id, displayOrder) :: rest) actor row placed := by
  have hkept : mid.id = row.id ∧ mid.level = row.level ∧ mid.conditions = row.conditions ∧
      mid.isActive = row.isActive ∧ mid.createdBy = row.createdBy ∧
        mid.createdAt = row.createdAt := by
    rw [hmid]
    split <;> exact ⟨rfl, rfl, rfl, rfl, rfl, rfl⟩
  obtain ⟨hid, hlevel, hconditions, hactive, hcreator, hcreated⟩ := hkept
  refine ⟨fun front place back hplaces hlast => ?_, fun hunnamed => ?_, hrest.id.trans hid,
    hrest.level.trans hlevel, hrest.conditions.trans hconditions, hrest.isActive.trans hactive,
    hrest.createdBy.trans hcreator, hrest.createdAt.trans hcreated⟩
  · cases front with
    | nil =>
        -- The row is not named again, so it is left in this place.
        cases hplaces
        rw [if_pos rfl] at hmid
        rw [hrest.notNamed (hid ▸ hlast), hmid]
        exact ⟨rfl, rfl⟩
    | cons first front =>
        rw [List.cons_append, List.cons.injEq] at hplaces
        exact hrest.named front place back (hid ▸ hplaces.2) (hid ▸ hlast)
  · rw [List.map_cons, List.mem_cons, not_or] at hunnamed
    rw [if_neg hunnamed.1] at hmid
    rw [hrest.notNamed (hid ▸ hunnamed.2), hmid]

/-- When places have been given one by one, each row stands as the last of them says. -/
theorem Places.placed {actor : Option String} {places : List (String × Int)}
    {rows placed : List Row} (hplaces : Places actor places rows placed)
    (honce : IdsOnce rows) : List.Forall₂ (Placed places actor) rows placed := by
  induction hplaces with
  | nil => exact List.forall₂_same.mpr fun row _ => placed_nil actor row
  | cons instant hrest ih =>
      have hlater := ih (honce.modify fun _ => rfl)
      refine forall₂_comp ?_ (honce.forall₂_modify _ _) hlater
      exact fun _ _ _ => Placed.cons

end Row

namespace Store

variable {store left : Store} {actor : Option String} {places : List (String × Int)}

/-- Giving places ends well if and only if its calls go well, one for each place. -/
theorem isOk_placeAll (actor : Option String) (places : List (String × Int)) (store : Store) :
    (placeAll actor places store).1 = .ok () ↔ store.outage.Spares places.length := by
  induction places generalizing store with
  | nil => exact iff_of_true rfl store.outage.spares_zero
  | cons place rest ih =>
      obtain ⟨id, displayOrder⟩ := place
      rw [List.length_cons, Outage.spares_succ]
      unfold placeAll place execute call
      simp only [bind, Action.bind]
      cases store.outage.next with
      | mk fault? outage =>
          cases fault? with
          | some fault =>
              refine iff_of_false (fun hends => ?_) fun hspared => ?_
              · cases hends
              · cases hspared.1
          | none => exact (ih _).trans (and_iff_right rfl).symm

/-- Where ids occur once, putting rules in order either ends well, and then every row stands as
the last place that is given to it says, or it fails, and then every row is as it was. It ends
well if the store is connected and none of its calls fails. -/
theorem reorder_all_or_nothing {outcome : Outcome Unit} (honce : Row.IdsOnce store.rows)
    (hresult : reorder places actor store = (outcome, left)) :
    ((outcome = .ok () ∧ List.Forall₂ (Row.Placed places actor) store.rows left.rows) ∨
      ((∃ failure, outcome = .error failure) ∧ left.rows = store.rows)) ∧
    (outcome = .ok () ↔ store.isConnected = true ∧ store.outage.Spares places.length) := by
  constructor
  · rcases reorder_cases hresult with ⟨failure, hfails, hrows⟩ | ⟨hdone, hplaces⟩
    · exact .inr ⟨⟨failure, hfails⟩, hrows⟩
    · exact .inl ⟨hdone, hplaces.placed honce⟩
  · constructor
    · rintro rfl
      have hplaced := transaction_ok (session_ok hresult)
      refine ⟨?_, (isOk_placeAll actor places store).mp (congrArg Prod.fst hplaced)⟩
      rcases session_cases hresult with ⟨hfails, -⟩ | ⟨hconnected, -⟩
      · cases hfails
      · exact hconnected
    · rintro ⟨hconnected, hspared⟩
      have hends := (isOk_placeAll actor places store).mpr hspared
      cases hplaced : placeAll actor places store with
      | mk inner mid =>
          rw [hplaced] at hends
          cases hends
          unfold reorder session transaction Action.reporting at hresult
          dsimp only at hresult
          rw [if_pos hconnected, hplaced] at hresult
          cases hresult
          rfl

/-- A row under an id, the second one in order. -/
def rowInOrder (id : String) : Row :=
  ⟨id, "expert", .array [], 2, true, none, none, 0, 0⟩

/-- Places of which one comes twice, and one is for no rule. -/
def crossedPlaces : List (String × Int) :=
  [("a", 5), ("ghost", 9), ("a", 0)]

/-- The last place counts if all is well; if the third statement fails on the operating system,
the first one is taken back. -/
theorem reorder_all_or_nothing_crossed :
    Row.IdsOnce [rowInOrder "a", rowInOrder "b"] ∧
      (∃ left placed, reorder crossedPlaces (some "eve")
          (.ofRows [rowInOrder "a", rowInOrder "b"] true) = (.ok (), left) ∧
        left.rows = [placed, rowInOrder "b"] ∧ placed.displayOrder = 0 ∧
        placed.updatedBy = some "eve") ∧
      ∃ cause left, reorder crossedPlaces (some "eve")
          { ofRows [rowInOrder "a", rowInOrder "b"] true with outage := ⟨.os, 2, 1⟩ } =
            (.error cause, left) ∧ left.rows = [rowInOrder "a", rowInOrder "b"] := by
  have honce : Row.IdsOnce [rowInOrder "a", rowInOrder "b"] := by
    unfold Row.IdsOnce rowInOrder
    decide
  refine ⟨honce, ?_, ?_⟩
  · cases hresult : reorder crossedPlaces (some "eve")
        (.ofRows [rowInOrder "a", rowInOrder "b"] true) with
    | mk outcome left =>
        obtain ⟨hends, hwell⟩ := reorder_all_or_nothing honce hresult
        cases hwell.mpr ⟨rfl, .inl rfl⟩
        rcases hends with ⟨-, hrows⟩ | ⟨⟨_, hfails⟩, -⟩
        · refine ⟨left, ?_⟩
          generalize left.rows = rows at hrows
          cases hrows with
          | cons hfirst hrest =>
              cases hrest with
              | cons hsecond hnone =>
                  cases hnone
                  obtain ⟨hplace, hactor⟩ := hfirst.named [("a", 5), ("ghost", 9)] 0 [] rfl nofun
                  exact ⟨_, rfl, by rw [hsecond.notNamed (by decide)], hplace, hactor⟩
        · cases hfails
  · cases hresult : reorder crossedPlaces (some "eve")
        { ofRows [rowInOrder "a", rowInOrder "b"] true with outage := ⟨.os, 2, 1⟩ } with
    | mk outcome left =>
        obtain ⟨hends, hwell⟩ := reorder_all_or_nothing honce hresult
        rcases hends with ⟨hdone, -⟩ | ⟨⟨cause, hfails⟩, hrows⟩
        · have hspared : Outage.Spares ⟨.os, 2, 1⟩ 3 := (hwell.mp hdone).2
          exact absurd hspared (by unfold Outage.Spares; decide)
        · exact ⟨cause, left, by rw [hfails], hrows⟩

end Store

end SkillTiers
