/-
# The index of a catalog

The index is built row by row, and each row may change it in two places. Either place
tells of the rows that have been read what `firstRating` finds in them: the rating of a
user on a subskill in the first row that counts, and the users who have one. So what is
looked up in the index of a catalog is what its rows say, however often rows are repeated
and whatever else they refer to.
-/

import SkillTiers.Dashboard.Catalog
import Mathlib.Data.List.Nodup

namespace SkillTiers

/-! ### Items once each -/

section Distinct

variable {α : Type} [BEq α] [LawfulBEq α]

@[simp] theorem mem_distinct {item : α} {items : List α} :
    item ∈ distinct items ↔ item ∈ items := by
  induction items with
  | nil => simp [distinct]
  | cons first rest ih =>
      by_cases hitem : item = first <;> simp [distinct, ih, hitem]

theorem nodup_distinct (items : List α) : (distinct items).Nodup := by
  induction items with
  | nil => simp [distinct]
  | cons first rest ih => simp [distinct, ih.filter]

end Distinct

/-! ### Rows -/

namespace RatingRow

/-- A row counts if it is approved and its subskill is named. -/
theorem rated?_eq_some {row : RatingRow} {subskillId : String} :
    row.rated? = some subskillId ↔
      row.status = approved ∧ row.subskillId = some subskillId ∧ subskillId ≠ "" := by
  by_cases hstatus : row.status = approved
  · simp [rated?, nonempty?, hstatus, Option.filter_eq_some_iff]
  · simp [rated?, hstatus]

/-- Whether the row rates the user on the subskill: it is approved, and the subskill is
named. -/
def rates (row : RatingRow) (userId subskillId : String) : Bool :=
  row.userId == userId && row.status == approved && row.subskillId == some subskillId &&
    subskillId != ""

theorem rates_eq (row : RatingRow) (userId subskillId : String) :
    row.rates userId subskillId = (row.userId == userId && row.rated? == some subskillId) := by
  rw [Bool.eq_iff_iff]
  simp [rates, rated?_eq_some, and_assoc]

end RatingRow

/-- The rating of a user on a subskill in the first row that counts. -/
def firstRating (rows : List RatingRow) (userId subskillId : String) : Option Rating :=
  (rows.find? (·.rates userId subskillId)).map (·.rating)

theorem firstRating_cons (row : RatingRow) (rest : List RatingRow) (userId subskillId : String) :
    firstRating (row :: rest) userId subskillId =
      if row.rates userId subskillId then some row.rating
      else firstRating rest userId subskillId := by
  unfold firstRating
  rw [List.find?_cons]
  cases row.rates userId subskillId <;> rfl

theorem isSome_firstRating {rows : List RatingRow} {userId subskillId : String} :
    (firstRating rows userId subskillId).isSome = rows.any (·.rates userId subskillId) := by
  rw [firstRating, Option.isSome_map, Bool.eq_iff_iff, List.find?_isSome, List.any_eq_true]

namespace RatingIndex

/-- The index with a rating that is new. -/
def extend (index : RatingIndex) (userId subskillId : String) (rating : Rating) : RatingIndex :=
  ⟨index.inForce ++ [((userId, subskillId), rating)], index.raters ++ [(subskillId, userId)]⟩

/-- A row changes nothing, or it has the first rating of its user on its subskill. -/
theorem add_cases (index : RatingIndex) (row : RatingRow) :
    (row.rated? = none ∧ index.add row = index) ∨
      (∃ subskillId rating, row.rated? = some subskillId ∧
        index.rating? row.userId subskillId = some rating ∧ index.add row = index) ∨
      ∃ subskillId, row.rated? = some subskillId ∧
        index.rating? row.userId subskillId = none ∧
        index.add row = index.extend row.userId subskillId row.rating := by
  cases hrated : row.rated? with
  | none => simp [add, hrated]
  | some subskillId =>
      cases hrating : index.rating? row.userId subskillId with
      | none => simp [add, extend, hrated, hrating]
      | some rating => simp [add, hrated, hrating]

theorem rating?_extend (index : RatingIndex) (userId subskillId : String) (rating : Rating)
    (user subskill : String) :
    (index.extend userId subskillId rating).rating? user subskill =
      (index.rating? user subskill).or
        (if userId = user ∧ subskillId = subskill then some rating else none) := by
  unfold rating? extend
  rw [List.find?_append, Option.map_or]
  by_cases hsame : userId = user ∧ subskillId = subskill <;> simp [hsame]

theorem usersOf_extend (index : RatingIndex) (userId subskillId : String) (rating : Rating)
    (subskill : String) : (index.extend userId subskillId rating).usersOf subskill =
      index.usersOf subskill ++ if subskillId = subskill then [userId] else [] := by
  by_cases hsame : subskillId = subskill <;> simp [usersOf, extend, hsame]

theorem mem_usersOf_extend {index : RatingIndex} {userId subskillId : String} {rating : Rating}
    {user subskill : String} :
    user ∈ (index.extend userId subskillId rating).usersOf subskill ↔
      user ∈ index.usersOf subskill ∨ (userId = user ∧ subskillId = subskill) := by
  rw [usersOf_extend, List.mem_append]
  by_cases hsame : subskillId = subskill <;> simp [hsame, @eq_comm _ userId]

/-- What one row does to the ratings: a user's rating on a subskill stays if there is one,
and may come from the row otherwise. -/
theorem rating?_add (index : RatingIndex) (row : RatingRow) (userId subskillId : String) :
    (index.add row).rating? userId subskillId =
      (index.rating? userId subskillId).or
        (if row.rates userId subskillId then some row.rating else none) := by
  rcases add_cases index row with ⟨hrated, hadd⟩ | ⟨rated, rating, hrated, hrating, hadd⟩ |
    ⟨rated, hrated, -, hadd⟩
  · simp [hadd, RatingRow.rates_eq, hrated]
  · by_cases hsame : row.userId = userId ∧ rated = subskillId
    · obtain ⟨rfl, rfl⟩ := hsame
      simp [hadd, hrating]
    · simp [hadd, RatingRow.rates_eq, hrated, hsame]
  · simp [hadd, RatingRow.rates_eq, hrated, rating?_extend]

/-- The users of a subskill are those with a rating on it. -/
def IsSound (index : RatingIndex) : Prop :=
  ∀ userId subskillId,
    userId ∈ index.usersOf subskillId ↔ (index.rating? userId subskillId).isSome

theorem isSound_empty : empty.IsSound := by
  simp [IsSound, empty, usersOf, rating?]

/-- Each row keeps the two places in step. -/
theorem IsSound.add {index : RatingIndex} (hsound : index.IsSound) (row : RatingRow) :
    (index.add row).IsSound := by
  rcases add_cases index row with ⟨-, hadd⟩ | ⟨-, -, -, -, hadd⟩ | ⟨rated, -, -, hadd⟩
  · rwa [hadd]
  · rwa [hadd]
  · intro userId subskillId
    rw [hadd, mem_usersOf_extend, hsound, rating?_extend]
    by_cases hsame : row.userId = userId ∧ rated = subskillId <;> simp [hsame]

/-- What all rows do to the ratings. -/
theorem rating?_foldl (rows : List RatingRow) (index : RatingIndex) (userId subskillId : String) :
    (rows.foldl RatingIndex.add index).rating? userId subskillId =
      (index.rating? userId subskillId).or (firstRating rows userId subskillId) := by
  induction rows generalizing index with
  | nil => simp [firstRating]
  | cons row rest ih =>
      rw [List.foldl_cons, ih, rating?_add, Option.or_assoc, firstRating_cons]
      congr 1
      by_cases hrates : row.rates userId subskillId <;> simp [hrates]

/-- The index has the first rating of a user on a subskill. -/
theorem rating?_ofRows (rows : List RatingRow) (userId subskillId : String) :
    (ofRows rows).rating? userId subskillId = firstRating rows userId subskillId := by
  rw [ofRows, rating?_foldl]
  rfl

theorem isSound_ofRows (rows : List RatingRow) : (ofRows rows).IsSound := by
  have hfold (index : RatingIndex) (hindex : index.IsSound) :
      (rows.foldl RatingIndex.add index).IsSound := by
    induction rows generalizing index with
    | nil => exact hindex
    | cons row rest ih => exact ih _ (hindex.add row)
  exact hfold empty isSound_empty

/-- The users of a subskill in the index are those whom a row rates on it. -/
theorem mem_usersOf_ofRows {rows : List RatingRow} {userId subskillId : String} :
    userId ∈ (ofRows rows).usersOf subskillId ↔ (firstRating rows userId subskillId).isSome := by
  rw [isSound_ofRows rows userId subskillId, rating?_ofRows]

end RatingIndex

end SkillTiers
