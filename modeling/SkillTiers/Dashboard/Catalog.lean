/-
# The catalog

Categories hold skills, skills hold subskills, and users are rated on subskills.
A rating counts when it is approved and names a subskill; of several by one user
on one subskill the first that counts is the one in force. Rows may be repeated
and may refer to rows that do not exist.
-/

import SkillTiers.Text.Nonempty
import SkillTiers.Tier

namespace SkillTiers

/-- A group of skills. -/
structure SkillCategory where
  id : String
  name : String
  description : Option String

/-- A skill of a category. -/
structure Skill where
  id : String
  name : String
  categoryId : String

/-- A part of a skill on which users are rated. -/
structure Subskill where
  id : String
  name : String
  skillId : String

/-- A rating of a user. -/
structure RatingRow where
  userId : String
  subskillId : Option String
  skillId : Option String
  rating : Rating
  status : String

/-- A user who can be reported. -/
structure UserProfile where
  userId : String
  fullName : String
  email : String

/-- The rows that a dashboard is computed from. -/
structure Catalog where
  categories : List SkillCategory
  skills : List Skill
  subskills : List Subskill
  ratings : List RatingRow
  profiles : List UserProfile

/-- The items in order of their first occurrence, each once. -/
def distinct {α : Type} [BEq α] : List α → List α
  | [] => []
  | item :: rest => item :: (distinct rest).filter (· != item)

namespace UserProfile

/-- The profile of a user; of several the last. -/
def of? (profiles : List UserProfile) (userId : String) : Option UserProfile :=
  profiles.reverse.find? (·.userId == userId)

end UserProfile

namespace RatingRow

/-- The status of a rating that counts. -/
def approved : String :=
  "approved"

/-- The subskill that the row rates, none where the row does not count. -/
def rated? (row : RatingRow) : Option String :=
  if row.status == approved then nonempty? row.subskillId else none

end RatingRow

/-- The ratings in force, as they are found while the rows are read. -/
structure RatingIndex where
  /-- The users and subskills with a rating, each pair once, with the rating. -/
  inForce : List ((String × String) × Rating)
  /-- The rated subskills, each with a user who is rated on it. -/
  raters : List (String × String)

namespace RatingIndex

/-- The index of no rows. -/
def empty : RatingIndex :=
  ⟨[], []⟩

/-- The rating of a user on a subskill. -/
def rating? (index : RatingIndex) (userId subskillId : String) : Option Rating :=
  (index.inForce.find? (·.1 == (userId, subskillId))).map (·.2)

/-- The users rated on a subskill. -/
def usersOf (index : RatingIndex) (subskillId : String) : List String :=
  (index.raters.filter (·.1 == subskillId)).map (·.2)

/-- The index with one more row. A row that does not count, or that comes after
another of the same user on the same subskill, changes nothing. -/
def add (index : RatingIndex) (row : RatingRow) : RatingIndex :=
  match row.rated? with
  | none => index
  | some subskillId =>
    if (index.rating? row.userId subskillId).isSome then index
    else ⟨index.inForce ++ [((row.userId, subskillId), row.rating)],
      index.raters ++ [(subskillId, row.userId)]⟩

/-- The index of rows. -/
def ofRows (rows : List RatingRow) : RatingIndex :=
  rows.foldl add empty

end RatingIndex

/-- What is looked up in a catalog: the skills of categories, the subskills of
skills, and the ratings in force. -/
structure CatalogIndex where
  skills : List Skill
  subskills : List Subskill
  ratings : RatingIndex

/-- The catalog with its ratings read once. -/
def Catalog.index (catalog : Catalog) : CatalogIndex :=
  ⟨catalog.skills, catalog.subskills, .ofRows catalog.ratings⟩

namespace CatalogIndex

/-- The skills of a category, in order. -/
def skillsOf (index : CatalogIndex) (categoryId : String) : List Skill :=
  index.skills.filter (·.categoryId == categoryId)

/-- The subskills of a skill, in order. -/
def subskillsOf (index : CatalogIndex) (skillId : String) : List Subskill :=
  index.subskills.filter (·.skillId == skillId)

/-- The users rated on some subskill of a category, each once. -/
def usersIn (index : CatalogIndex) (categoryId : String) : List String :=
  distinct ((index.skillsOf categoryId).flatMap fun skill =>
    (index.subskillsOf skill.id).flatMap fun subskill => index.ratings.usersOf subskill.id)

end CatalogIndex

end SkillTiers
