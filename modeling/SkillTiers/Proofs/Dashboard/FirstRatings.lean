/-
# Only first ratings matter

What a dashboard reports depends on the rows of ratings through the first rating of each
user on each subskill alone (`Catalog.dashboard_by_first_ratings`). Other rows with the
same first ratings may list the users of a category in another order, so two dashboards are
compared tier by tier up to the order of users; the users themselves are the same records.

Rows that do not count, rows that come too late and the order of rows for different users
or subskills make no difference to first ratings (`Restated.sameFirst`).
-/

import SkillTiers.Proofs.Dashboard.Lookup
import SkillTiers.Proofs.Keyed

namespace SkillTiers

/-! ### Rows with the same first ratings -/

/-- The first ratings in both lists are the same. -/
def SameFirst (rows others : List RatingRow) : Prop :=
  ∀ userId subskillId, firstRating rows userId subskillId = firstRating others userId subskillId

/-- The user and the subskill of a row. -/
def RatingRow.key (row : RatingRow) : String × Option String :=
  (row.userId, row.subskillId)

/-- Rows that come from others by leaving out or putting in rows that say nothing new, and
by changing the order of rows with different keys. -/
inductive Restated : List RatingRow → List RatingRow → Prop where
  /-- A row that is not approved. -/
  | unapproved {front back : List RatingRow} {row : RatingRow}
      (hstatus : row.status ≠ RatingRow.approved) :
      Restated (front ++ row :: back) (front ++ back)
  /-- A row for a skill as a whole. -/
  | skillOnly {front back : List RatingRow} {row : RatingRow}
      (hsubskill : row.subskillId = none ∨ row.subskillId = some "") :
      Restated (front ++ row :: back) (front ++ back)
  /-- A row after an approved one with the same key. -/
  | repeated {front back : List RatingRow} {row earlier : RatingRow} (hearlier : earlier ∈ front)
      (hstatus : earlier.status = RatingRow.approved) (hkey : earlier.key = row.key) :
      Restated (front ++ row :: back) (front ++ back)
  /-- Rows next to one another with different keys. -/
  | reordered {front rows others back : List RatingRow} (hperm : rows.Perm others)
      (hkeys : (rows.map RatingRow.key).Nodup) :
      Restated (front ++ (rows ++ back)) (front ++ (others ++ back))
  | symm {rows others : List RatingRow} (h : Restated rows others) : Restated others rows
  | trans {rows others third : List RatingRow} (hfirst : Restated rows others)
      (hsecond : Restated others third) : Restated rows third

theorem firstRating_append (front back : List RatingRow) (userId subskillId : String) :
    firstRating (front ++ back) userId subskillId =
      (firstRating front userId subskillId).or (firstRating back userId subskillId) := by
  rw [firstRating, List.find?_append, Option.map_or]
  rfl

/-- A first rating is what is found under a key among the rows that count. -/
theorem firstRating_eq (rows : List RatingRow) (userId subskillId : String) :
    firstRating rows userId subskillId =
      ((rows.filter fun row => row.status == RatingRow.approved && subskillId != "").find?
        (·.key == (userId, some subskillId))).map (·.rating) := by
  rw [List.find?_filter, firstRating]
  congr 2
  funext row
  rw [Bool.eq_iff_iff]
  simp only [RatingRow.rates, RatingRow.key, Bool.and_eq_true, beq_iff_eq, bne_iff_ne,
    Prod.mk.injEq, decide_eq_true_eq]
  tauto

/-- Among rows with different keys there is one at most for a user and a subskill. -/
theorem firstRating_perm {rows others : List RatingRow} (hperm : rows.Perm others)
    (hkeys : (rows.map RatingRow.key).Nodup) (userId subskillId : String) :
    firstRating rows userId subskillId = firstRating others userId subskillId := by
  rw [firstRating_eq, firstRating_eq, find?_key_perm RatingRow.key (hperm.filter _)]
  exact hkeys.sublist (List.filter_sublist.map _)

/-- A row that rates nobody on anything is as good as none. -/
theorem sameFirst_of_not_rates {front back : List RatingRow} {row : RatingRow}
    (hrates : ∀ userId subskillId, row.rates userId subskillId = false) :
    SameFirst (front ++ row :: back) (front ++ back) := by
  intro userId subskillId
  rw [firstRating_append, firstRating_append, firstRating_cons]
  simp [hrates]

theorem Restated.sameFirst {rows others : List RatingRow} (h : Restated rows others) :
    SameFirst rows others := by
  induction h with
  | unapproved hstatus =>
      apply sameFirst_of_not_rates
      simp [RatingRow.rates, hstatus]
  | skillOnly hsubskill =>
      apply sameFirst_of_not_rates
      rcases hsubskill with hsubskill | hsubskill <;> simp +contextual [RatingRow.rates, hsubskill]
  | @repeated front back row earlier hearlier hstatus hkey =>
      intro userId subskillId
      rw [firstRating_append, firstRating_append, firstRating_cons]
      by_cases hrates : row.rates userId subskillId = true
      · -- The earlier row has a rating for whatever the later one has a rating for.
        have hbefore : (firstRating front userId subskillId).isSome := by
          rw [isSome_firstRating, List.any_eq_true]
          refine ⟨earlier, hearlier, ?_⟩
          simp_all [RatingRow.rates, RatingRow.key]
        obtain ⟨rating, hrating⟩ := Option.isSome_iff_exists.mp hbefore
        simp [hrating]
      · simp [hrates]
  | reordered hperm hkeys =>
      intro userId subskillId
      simp only [firstRating_append, firstRating_perm hperm hkeys]
  | symm _ ih => exact fun userId subskillId => (ih userId subskillId).symm
  | trans _ _ ih ih' => exact fun userId subskillId =>
      (ih userId subskillId).trans (ih' userId subskillId)

/-! ### Dashboards alike -/

/-- The reports are on the same category and have the same users under each tier, in
whatever order. -/
structure CategoryStats.Alike (first second : CategoryStats) : Prop where
  category : first.category = second.category
  skillCount : first.skillCount = second.skillCount
  users : ∀ tier, (first.usersAt tier).Perm (second.usersAt tier)

/-- A report does not depend on the order in which users are put into it, up to the order
of its users. -/
theorem CategoryStats.alike_foldl (stats : CategoryStats)
    {found others : List (Option ClassifiedUser)} (hperm : found.Perm others) :
    (found.foldl addFound stats).Alike (others.foldl addFound stats) where
  category := by rw [category_foldl, category_foldl]
  skillCount := by rw [skillCount_foldl, skillCount_foldl]
  users tier := by
    rw [usersAt_foldl, usersAt_foldl]
    exact ((hperm.filterMap id).filter _).append_left _

namespace Catalog

/-- The catalog with other ratings. -/
def withRatings (catalog : Catalog) (rows : List RatingRow) : Catalog :=
  { catalog with ratings := rows }

section Ratings

variable {catalog : Catalog} {rows : List RatingRow}

theorem catalogsAgree_withRatings (hsame : SameFirst catalog.ratings rows) (skill : Skill) :
    CatalogsAgree catalog (catalog.withRatings rows) skill :=
  ⟨rfl, fun subskill _ userId => hsame userId subskill.id⟩

/-- A category has the same users. -/
theorem usersIn_withRatings (hsame : SameFirst catalog.ratings rows) (category : SkillCategory) :
    (catalog.index.usersIn category.id).Perm
      ((catalog.withRatings rows).index.usersIn category.id) := by
  rw [List.perm_ext_iff_of_nodup (nodup_usersIn _ _) (nodup_usersIn _ _)]
  intro userId
  rw [mem_usersIn, mem_usersIn, isRated, isRated]
  have hskill (skill : Skill) :
      catalog.isRatedIn userId skill = (catalog.withRatings rows).isRatedIn userId skill :=
    isRatedIn_congr (catalogsAgree_withRatings hsame skill) userId
  rw [funext hskill]
  rfl

/-- The reports on a category are alike. -/
theorem categoryStats_withRatings (hsame : SameFirst catalog.ratings rows) (engine : Engine)
    (countUnrated : Bool) (category : SkillCategory) :
    OutcomesAlike CategoryStats.Alike
      (catalog.index.categoryStats catalog.profiles engine countUnrated category)
      ((catalog.withRatings rows).index.categoryStats catalog.profiles engine countUnrated
        category) := by
  rw [CatalogIndex.categoryStats_eq, CatalogIndex.categoryStats_eq,
    funext (classifiedUser?_congr (fun skill _ => catalogsAgree_withRatings hsame skill)
      engine.sameFromOne_refl catalog.profiles countUnrated)]
  exact (OutcomesAlike.mapM_perm _ (usersIn_withRatings hsame category)).map
    fun _ _ => CategoryStats.alike_foldl _

end Ratings

/-- Dashboards for rows with the same first ratings are alike, and so are those for rows
that are the same but for rows that say nothing new and for the order of rows with different
keys: both fail, or every category has the same users under each tier. -/
theorem dashboard_by_first_ratings (catalog : Catalog) (engine : Engine) (countUnrated : Bool)
    {rows : List RatingRow}
    (hrows : SameFirst catalog.ratings rows ∨ Restated catalog.ratings rows) :
    OutcomesAlike (List.Forall₂ CategoryStats.Alike) (catalog.dashboard engine countUnrated)
      ((catalog.withRatings rows).dashboard engine countUnrated) := by
  have hsame : SameFirst catalog.ratings rows := hrows.elim id Restated.sameFirst
  exact .mapM (categoryStats_withRatings hsame engine countUnrated) catalog.categories

/-- Two users in a category with one skill. The rating of the first is told again, and a
rating of the second is pending before it is approved. -/
def toldAgain : Catalog where
  categories := [⟨"c", "Languages", none⟩]
  skills := [⟨"k", "French", "c"⟩]
  subskills := [⟨"r", "Reading", "k"⟩, ⟨"w", "Writing", "k"⟩]
  ratings := [
    ⟨"u", some "r", none, .high, "approved"⟩,
    ⟨"v", some "r", none, .low, "pending"⟩,
    ⟨"u", some "r", none, .low, "approved"⟩,
    ⟨"v", some "r", none, .medium, "approved"⟩]
  profiles := [⟨"u", "Ulla", "u@b.c"⟩, ⟨"v", "Vera", "v@b.c"⟩]

/-- The same told once, of the second user first. -/
def toldOnce : List RatingRow :=
  [⟨"v", some "r", none, .medium, "approved"⟩, ⟨"u", some "r", none, .high, "approved"⟩]

theorem dashboard_by_first_ratings_toldAgain :
    Restated toldAgain.ratings toldOnce ∧ IsResult (toldAgain.dashboard (.empty .nan) false) ∧
      OutcomesAlike (List.Forall₂ CategoryStats.Alike) (toldAgain.dashboard (.empty .nan) false)
        ((toldAgain.withRatings toldOnce).dashboard (.empty .nan) false) := by
  have hagain : Restated toldAgain.ratings (toldAgain.ratings.eraseIdx 2) :=
    @Restated.repeated (toldAgain.ratings.take 2) (toldAgain.ratings.drop 3) _
      ⟨"u", some "r", none, .high, "approved"⟩ List.mem_cons_self rfl rfl
  have hpending : Restated (toldAgain.ratings.eraseIdx 2) toldOnce.reverse :=
    @Restated.unapproved (toldAgain.ratings.take 1) (toldAgain.ratings.drop 3) _ (by decide)
  have horder : Restated toldOnce.reverse toldOnce :=
    @Restated.reordered [] _ _ [] toldOnce.reverse_perm (by decide)
  have hrows : Restated toldAgain.ratings toldOnce := (hagain.trans hpending).trans horder
  have hsome : (toldAgain.dashboard (.empty .nan) false).toOption.isSome = true := by
    decide +kernel
  obtain ⟨reports, hreports⟩ := Option.isSome_iff_exists.mp hsome
  exact ⟨hrows, ⟨reports, ok_of_toOption hreports⟩,
    dashboard_by_first_ratings toldAgain (.empty .nan) false (.inr hrows)⟩

end Catalog

end SkillTiers
