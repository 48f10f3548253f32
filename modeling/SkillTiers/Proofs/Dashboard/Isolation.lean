/-
# Categories apart

All categories of a dashboard are looked up in one index, and ids may be repeated in it.
Still a report depends on the rows of its category alone: on the skills of the category,
the subskills of these and the ratings on them (`Catalog.only`). Rows of other categories
may be added or left out without any change to it, so a dashboard is put together from
those of its categories (`Catalog.dashboard_by_category`).

A subskill has its place in the index whichever other rows are read: rows that do not rate
it neither change what is found of it nor the order in which its users are found
(`RatingIndex.sameAt_ofRows_filter`).
-/

import SkillTiers.Proofs.Dashboard.Lookup

namespace SkillTiers

/-! ### One subskill in the index -/

namespace RatingIndex

/-- The indexes have the same of a subskill: its ratings, and its users in order. -/
structure SameAt (subskillId : String) (index other : RatingIndex) : Prop where
  rating : ∀ userId, index.rating? userId subskillId = other.rating? userId subskillId
  users : index.usersOf subskillId = other.usersOf subskillId

/-- What one row does to the users of a subskill. -/
theorem usersOf_add (index : RatingIndex) (row : RatingRow) (subskillId : String) :
    (index.add row).usersOf subskillId = index.usersOf subskillId ++
      if row.rated? = some subskillId ∧ index.rating? row.userId subskillId = none then
        [row.userId] else [] := by
  rcases add_cases index row with ⟨hrated, hadd⟩ | ⟨rated, rating, hrated, hrating, hadd⟩ |
    ⟨rated, hrated, hrating, hadd⟩
  · simp [hadd, hrated]
  · by_cases hsame : rated = subskillId
    · simp [hadd, hrated, ← hsame, hrating]
    · simp [hadd, hrated, hsame]
  · rw [hadd, usersOf_extend]
    by_cases hsame : rated = subskillId
    · simp [hrated, ← hsame, hrating]
    · simp [hrated, hsame]

/-- A row that does not rate a subskill changes nothing of it. -/
theorem sameAt_add (index : RatingIndex) {row : RatingRow} {subskillId : String}
    (hrated : row.rated? ≠ some subskillId) : SameAt subskillId index (index.add row) where
  rating userId := by simp [rating?_add, RatingRow.rates_eq, hrated]
  users := by simp [usersOf_add, hrated]

/-- A row that is read into both. -/
theorem SameAt.add {index other : RatingIndex} {subskillId : String}
    (hsame : SameAt subskillId index other) (row : RatingRow) :
    SameAt subskillId (index.add row) (other.add row) where
  rating userId := by rw [rating?_add, rating?_add, hsame.rating]
  users := by rw [usersOf_add, usersOf_add, hsame.users, hsame.rating]

theorem SameAt.trans {index other third : RatingIndex} {subskillId : String}
    (hfirst : SameAt subskillId index other) (hsecond : SameAt subskillId other third) :
    SameAt subskillId index third where
  rating userId := (hfirst.rating userId).trans (hsecond.rating userId)
  users := hfirst.users.trans hsecond.users

/-- Leaving out rows that do not rate a subskill changes nothing of it. -/
theorem sameAt_ofRows_filter {rows : List RatingRow} {keep : RatingRow → Bool}
    {subskillId : String}
    (hkeep : ∀ row ∈ rows, row.rated? = some subskillId → keep row = true) :
    SameAt subskillId (ofRows (rows.filter keep)) (ofRows rows) := by
  have hfold (index other : RatingIndex) (hsame : SameAt subskillId index other) :
      SameAt subskillId ((rows.filter keep).foldl RatingIndex.add index)
        (rows.foldl RatingIndex.add other) := by
    induction rows generalizing index other with
    | nil => exact hsame
    | cons row rest ih =>
        obtain ⟨hrow, hrest⟩ := List.forall_mem_cons.mp hkeep
        cases hkept : keep row with
        | true =>
            rw [List.filter_cons_of_pos hkept]
            exact ih hrest _ _ (hsame.add row)
        | false =>
            have hrated : row.rated? ≠ some subskillId := by
              intro hrated
              simp [hrow hrated] at hkept
            rw [List.filter_cons_of_neg (by simp [hkept])]
            exact ih hrest _ _ (hsame.trans (sameAt_add other hrated))
  exact hfold empty empty ⟨fun _ => rfl, rfl⟩

end RatingIndex

/-! ### One category in the catalog -/

namespace Catalog

/-- The catalog with one category alone: its skills, the subskills of these, and the ratings
that do not name another subskill. -/
def only (catalog : Catalog) (category : SkillCategory) : Catalog :=
  let skills := catalog.skills.filter (·.categoryId == category.id)
  let subskills := catalog.subskills.filter fun subskill => skills.any (·.id == subskill.skillId)
  { catalog with
    categories := [category]
    skills := skills
    subskills := subskills
    ratings := catalog.ratings.filter fun row =>
      row.subskillId.all fun subskillId => subskills.any (·.id == subskillId) }

/-- The catalog with other categories to report on. -/
def withCategories (catalog : Catalog) (categories : List SkillCategory) : Catalog :=
  { catalog with categories := categories }

section Category

variable (catalog : Catalog) (category : SkillCategory)

theorem skillsOf_only : (catalog.only category).index.skillsOf category.id =
    catalog.index.skillsOf category.id := by
  simp [only, index, CatalogIndex.skillsOf]

variable {catalog category} {skill : Skill} {subskill : Subskill}

/-- The skills of the category keep their subskills. -/
theorem subskillsOf_only (hskill : skill ∈ catalog.index.skillsOf category.id) :
    (catalog.only category).index.subskillsOf skill.id = catalog.index.subskillsOf skill.id := by
  simp only [only, index, CatalogIndex.subskillsOf, List.filter_filter]
  apply List.filter_congr
  intro subskill _
  by_cases hof : subskill.skillId = skill.id
  · have hkept : ∃ other ∈ catalog.index.skillsOf category.id, other.id = skill.id :=
      ⟨skill, hskill, rfl⟩
    simpa [hof, CatalogIndex.skillsOf, index, and_assoc] using hkept
  · simp [hof]

/-- Their subskills keep their ratings. -/
theorem sameAt_only (hskill : skill ∈ catalog.index.skillsOf category.id)
    (hsubskill : subskill ∈ catalog.index.subskillsOf skill.id) :
    RatingIndex.SameAt subskill.id (catalog.only category).index.ratings
      catalog.index.ratings := by
  apply RatingIndex.sameAt_ofRows_filter
  intro row _ hrated
  have hkept : subskill ∈ (catalog.only category).subskills := by
    rw [← subskillsOf_only hskill] at hsubskill
    exact List.mem_of_mem_filter hsubskill
  rw [(RatingRow.rated?_eq_some.mp hrated).2.1]
  exact List.any_eq_true.mpr ⟨subskill, hkept, beq_self_eq_true _⟩

theorem catalogsAgree_only (hskill : skill ∈ catalog.index.skillsOf category.id) :
    CatalogsAgree (catalog.only category) catalog skill where
  subskills := subskillsOf_only hskill
  ratings subskill hsubskill userId := by
    rw [subskillsOf_only hskill] at hsubskill
    rw [← RatingIndex.rating?_ofRows, ← RatingIndex.rating?_ofRows]
    exact (sameAt_only hskill hsubskill).rating userId

/-- The category keeps its users, in order. -/
theorem usersIn_only (catalog : Catalog) (category : SkillCategory) :
    (catalog.only category).index.usersIn category.id = catalog.index.usersIn category.id := by
  unfold CatalogIndex.usersIn
  rw [skillsOf_only]
  congr 1
  apply List.flatMap_congr
  intro skill hskill
  rw [subskillsOf_only hskill]
  apply List.flatMap_congr
  intro subskill hsubskill
  exact (sameAt_only hskill hsubskill).users

/-- The report on a category is that on the category alone. -/
theorem categoryStats_only (catalog : Catalog) (engine : Engine) (countUnrated : Bool)
    (category : SkillCategory) :
    (catalog.only category).index.categoryStats catalog.profiles engine countUnrated category =
      catalog.index.categoryStats catalog.profiles engine countUnrated category := by
  apply categoryStats_congr
  · intro skill hskill
    rw [skillsOf_only] at hskill
    exact catalogsAgree_only hskill
  · exact skillsOf_only catalog category
  · exact usersIn_only catalog category
  · exact engine.sameFromOne_refl

/-- A dashboard of one category has one report. -/
theorem dashboard_only (catalog : Catalog) (engine : Engine) (countUnrated : Bool)
    (category : SkillCategory) :
    (catalog.only category).dashboard engine countUnrated =
      (catalog.index.categoryStats catalog.profiles engine countUnrated category).map
        fun stats => [stats] := by
  rw [← categoryStats_only]
  exact List.mapM_cons

end Category

/-- A dashboard is put together from those of its categories, each on the rows of its
category alone: it has their reports, or fails as the first of them that fails. So for
categories in two parts it has the reports on the one and then those on the other. -/
theorem dashboard_by_category (catalog : Catalog) (engine : Engine) (countUnrated : Bool) :
    catalog.dashboard engine countUnrated =
        (catalog.categories.mapM fun category =>
          (catalog.only category).dashboard engine countUnrated).map List.flatten ∧
      (∀ reports, catalog.dashboard engine countUnrated = .ok reports ↔
        List.Forall₂ (fun category report =>
            (catalog.only category).dashboard engine countUnrated = .ok [report])
          catalog.categories reports) ∧
      ∀ front back, (catalog.withCategories (front ++ back)).dashboard engine countUnrated = do
        return (← (catalog.withCategories front).dashboard engine countUnrated) ++
          (← (catalog.withCategories back).dashboard engine countUnrated) := by
  refine ⟨?_, ?_, ?_⟩
  · rw [funext (catalog.dashboard_only engine countUnrated), mapM_singletons]
    rfl
  · intro reports
    have hone (category : SkillCategory) (report : CategoryStats) :
        (catalog.only category).dashboard engine countUnrated = .ok [report] ↔
          catalog.index.categoryStats catalog.profiles engine countUnrated category =
            .ok report := by
      rw [dashboard_only]
      cases catalog.index.categoryStats catalog.profiles engine countUnrated category <;>
        simp [Except.map]
    simp only [hone]
    exact mapM_eq_ok
  · intro front back
    exact List.mapM_append

end Catalog

end SkillTiers
