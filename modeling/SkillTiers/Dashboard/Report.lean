/-
# The dashboard

The dashboard reports, for every category, the users who are rated in it, each
under the tier reached in the category. That tier comes from the tiers of the
skills in which the user is rated, and those come from the ratings in force.
Coverage is the share of rated subskills among all subskills of those skills.
-/

import SkillTiers.Dashboard.Catalog
import SkillTiers.Rule.Engine

namespace SkillTiers

/-- A subskill with a rating in force. -/
structure RatedSubskill where
  subskill : Subskill
  rating : Rating

/-- A skill in which a user is rated. -/
structure UserSkill where
  skill : Skill
  tier : Tier
  rated : List RatedSubskill

/-- A user in a category. -/
structure ClassifiedUser where
  profile : UserProfile
  tier : Tier
  coverage : Double
  skills : List UserSkill

/-- A category with the users who are rated in it, by their tiers. -/
structure CategoryStats where
  category : SkillCategory
  expertUsers : List ClassifiedUser
  intermediateUsers : List ClassifiedUser
  beginnerUsers : List ClassifiedUser
  skillCount : Nat

namespace CategoryStats

/-- The report on a category without users. -/
def ofCategory (category : SkillCategory) (skillCount : Nat) : CategoryStats :=
  ⟨category, [], [], [], skillCount⟩

/-- The report with one more user, last among those of the same tier. -/
def add (stats : CategoryStats) (user : ClassifiedUser) : CategoryStats :=
  match user.tier with
  | .expert => { stats with expertUsers := stats.expertUsers ++ [user] }
  | .intermediate => { stats with intermediateUsers := stats.intermediateUsers ++ [user] }
  | .beginner => { stats with beginnerUsers := stats.beginnerUsers ++ [user] }

/-- The users reported under a tier. -/
def usersAt (stats : CategoryStats) : Tier → List ClassifiedUser
  | .expert => stats.expertUsers
  | .intermediate => stats.intermediateUsers
  | .beginner => stats.beginnerUsers

end CategoryStats

namespace CatalogIndex

/-- The subskills of a skill on which a user is rated. -/
def ratedSubskills (index : CatalogIndex) (userId : String) (skill : Skill) :
    List RatedSubskill :=
  (index.subskillsOf skill.id).filterMap fun subskill =>
    (index.ratings.rating? userId subskill.id).map fun rating => ⟨subskill, rating⟩

/-- The user's standing in a skill, none without a rating. The total counts all
subskills of the skill under `countUnrated`, and only the rated ones otherwise. -/
def userSkill? (index : CatalogIndex) (engine : Engine) (countUnrated : Bool)
    (userId : String) (skill : Skill) : Outcome (Option UserSkill) :=
  match index.ratedSubskills userId skill with
  | [] => .ok none
  | rated => do
    let total : Option Number :=
      if countUnrated then some (.int (index.subskillsOf skill.id).length) else none
    let tier ← engine.classifySkill (rated.map fun item => some item.rating) total
    return some ⟨skill, tier, rated⟩

/-- The user's standing in each of these skills that has a rating. -/
def userSkills (index : CatalogIndex) (engine : Engine) (countUnrated : Bool)
    (userId : String) : List Skill → Outcome (List UserSkill)
  | [] => .ok []
  | skill :: rest => do
    let first ← index.userSkill? engine countUnrated userId skill
    return first.toList ++ (← userSkills index engine countUnrated userId rest)

-- A sum starts from the numeral, whatever else is imported.
attribute [local instance (high)] Zero.ofOfNat0

/-- How many subskills the skills of a user have. -/
def subskillTotal (index : CatalogIndex) (skills : List UserSkill) : Nat :=
  (skills.map fun item => (index.subskillsOf item.skill.id).length).sum

/-- How many rated subskills the skills of a user list. -/
def ratedTotal (skills : List UserSkill) : Nat :=
  (skills.map (·.rated.length)).sum

/-- The share of `rated` in `total` in percent, divided first. -/
def coverageOf (rated total : Nat) : Outcome Double :=
  if 0 < total then
    .ofArithmetic do
      let share ← (Number.int rated).div (.int total)
      return share.mul (← (Number.int 100).toDouble)
  else .ok .zero

/-- The user in a category with these skills; none without a profile or without a
rating. -/
def classifiedUser? (index : CatalogIndex) (profiles : List UserProfile) (engine : Engine)
    (countUnrated : Bool) (skills : List Skill) (userId : String) :
    Outcome (Option ClassifiedUser) :=
  match UserProfile.of? profiles userId with
  | none => .ok none
  | some profile => do
    match ← index.userSkills engine countUnrated userId skills with
    | [] => return none
    | userSkills => do
      let tier ← engine.classifyCategory (userSkills.map fun item => some item.tier)
      let coverage ← coverageOf (ratedTotal userSkills) (index.subskillTotal userSkills)
      return some ⟨profile, tier, coverage, userSkills⟩

/-- The report on a category. Its users are classified one by one and put under
their tiers. -/
def categoryStats (index : CatalogIndex) (profiles : List UserProfile) (engine : Engine)
    (countUnrated : Bool) (category : SkillCategory) : Outcome CategoryStats :=
  let skills := index.skillsOf category.id
  (index.usersIn category.id).foldlM (fun stats userId => do
    let user? ← index.classifiedUser? profiles engine countUnrated skills userId
    return user?.elim stats stats.add) (.ofCategory category skills.length)

end CatalogIndex

namespace Catalog

/-- The report on every category, in order. -/
def dashboard (catalog : Catalog) (engine : Engine) (countUnrated : Bool) :
    Outcome (List CategoryStats) :=
  let index := catalog.index
  catalog.categories.mapM (index.categoryStats catalog.profiles engine countUnrated)

end Catalog

/-! The report as JSON. -/

namespace RatedSubskill

/-- The rated subskill as JSON. -/
def toJson (item : RatedSubskill) : Json :=
  .object [
    ("subskill_id", .string item.subskill.id),
    ("subskill_name", .string item.subskill.name),
    ("rating", .string item.rating.name)]

end RatedSubskill

namespace UserSkill

/-- The skill of a user as JSON. -/
def toJson (item : UserSkill) : Json :=
  .object [
    ("skill_id", .string item.skill.id),
    ("skill_name", .string item.skill.name),
    ("classification", .string item.tier.name),
    ("subskills", .array (item.rated.map RatedSubskill.toJson))]

end UserSkill

namespace ClassifiedUser

/-- The user as JSON. -/
def toJson (user : ClassifiedUser) : Json :=
  .object [
    ("user_id", .string user.profile.userId),
    ("full_name", .string user.profile.fullName),
    ("email", .string user.profile.email),
    ("classification", .string user.tier.name),
    ("percentage", .number (.float user.coverage)),
    ("skills", .array (user.skills.map UserSkill.toJson))]

end ClassifiedUser

namespace CategoryStats

/-- The users at a tier as JSON. -/
def usersJson (stats : CategoryStats) (tier : Tier) : Json :=
  .array ((stats.usersAt tier).map ClassifiedUser.toJson)

/-- The report on a category as JSON. -/
def toJson (stats : CategoryStats) : Json :=
  .object [
    ("id", .string stats.category.id),
    ("name", .string stats.category.name),
    ("description", .ofString? stats.category.description),
    ("expert_users", stats.usersJson .expert),
    ("intermediate_users", stats.usersJson .intermediate),
    ("beginner_users", stats.usersJson .beginner),
    ("skill_count", .ofInt stats.skillCount)]

end CategoryStats

end SkillTiers
