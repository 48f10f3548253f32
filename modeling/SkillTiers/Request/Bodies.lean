/-
# Request bodies

The data that each kind of request carries, and how it is read. Each reader takes
the kind of problem that data other than an object is.
-/

import SkillTiers.Condition.Basic
import SkillTiers.Dashboard.Catalog
import SkillTiers.Request.Reading
import SkillTiers.SkillMetrics

namespace SkillTiers

open Reading

namespace Condition

/-- The spellings of the links between conditions. -/
def link (text : String) : Option String :=
  [conjunction, alternative].find? (· == text)

/-- The key that a field goes by: its first name where it is there. -/
def keyAmong (fields : List (String × Json)) (first second : String) : String :=
  if (Json.lookup fields first).isSome then first else second

/-- How many conditions can lie in one another. -/
def maxDepth : Nat :=
  255

mutual

/-- A condition that lies in `depth` others. The link and the sub-conditions go by
two names each. -/
def readAt (otherwise : ProblemKind) (depth : Nat) : Json → Reading Condition
  | .object fields =>
    if depth < maxDepth then
      Condition.mk
        <$> (some <$> required fields "metric" text)
        <*> (some <$> required fields "operator" text)
        <*> ((fun value => value.elim .null fun double => .number (.float double))
          <$> optional fields "value" double)
        <*> optional fields "metric2" text
        <*> optional fields (keyAmong fields "combineWith" "combine_with") (word link)
        <*> readSubConditions otherwise depth
          (keyAmong fields "subConditions" "sub_conditions") fields
        <*> optional fields "note" text
    else fail .tooDeep (.object fields)
  | value => fail (if depth < maxDepth then otherwise else .tooDeep) value

/-- The sub-conditions under a key. -/
def readSubConditions (otherwise : ProblemKind) (depth : Nat) (key : String) :
    List (String × Json) → Reading (List Condition)
  | [] => .valid []
  | (name, value) :: rest =>
    if name == key then (readListAt otherwise (depth + 1) value).under (.key key)
    else readSubConditions otherwise depth key rest

/-- A list of conditions that lie in `depth` others. -/
def readListAt (otherwise : ProblemKind) (depth : Nat) : Json → Reading (List Condition)
  | .array items => readItems otherwise depth 0 items
  | value => fail .notList value

/-- Conditions one by one, numbered on from `position`. -/
def readItems (otherwise : ProblemKind) (depth position : Nat) :
    List Json → Reading (List Condition)
  | [] => .valid []
  | item :: rest =>
    List.cons <$> (readAt otherwise depth item).under (.index position)
      <*> readItems otherwise depth (position + 1) rest

end

/-- A condition. -/
def read (otherwise : ProblemKind) : Json → Reading Condition :=
  readAt otherwise 0

/-- A list of conditions. -/
def readList (otherwise : ProblemKind) : Json → Reading (List Condition) :=
  readListAt otherwise 0

end Condition

/-- A rule to be created. -/
structure RuleDraft where
  level : Tier
  conditions : List Condition
  displayOrder : Nat
  isActive : Bool

namespace RuleDraft

/-- A draft, active and first in order unless it says otherwise. -/
def read (otherwise : ProblemKind) : Json → Reading RuleDraft :=
  record otherwise fun fields =>
    RuleDraft.mk
      <$> required fields "level" (word Tier.ofName?)
      <*> withDefault fields "conditions" [] (Condition.readList otherwise)
      <*> withDefault fields "display_order" 0 natural
      <*> withDefault fields "is_active" true truth

end RuleDraft

/-- A change to a rule: what is none stays as it is. -/
structure RuleChange where
  level : Option Tier
  conditions : Option (List Condition)
  displayOrder : Option Nat
  isActive : Option Bool

namespace RuleChange

/-- A change to a rule. -/
def read (otherwise : ProblemKind) : Json → Reading RuleChange :=
  record otherwise fun fields =>
    RuleChange.mk
      <$> optional fields "level" (word Tier.ofName?)
      <*> optional fields "conditions" (Condition.readList otherwise)
      <*> optional fields "display_order" natural
      <*> optional fields "is_active" truth

end RuleChange

/-- A place in the order for the rule with an id. -/
structure Placement where
  id : String
  displayOrder : Nat

namespace Placement

/-- A placement. -/
def read (otherwise : ProblemKind) : Json → Reading Placement :=
  record otherwise fun fields =>
    Placement.mk <$> required fields "id" text <*> required fields "display_order" natural

/-- The placements under their key. -/
def readAll (otherwise : ProblemKind) : Json → Reading (List Placement) :=
  record otherwise fun fields => required fields "rules" (list (read otherwise))

end Placement

namespace Condition

/-- The conditions under their key. -/
def readAll (otherwise : ProblemKind) : Json → Reading (List Condition) :=
  record otherwise fun fields => required fields "conditions" (readList otherwise)

end Condition

/-- Counts that are whole and not negative. -/
structure WholeCounts where
  high : Nat
  medium : Nat
  low : Nat
  total : Nat

namespace WholeCounts

/-- The counts. -/
def read (otherwise : ProblemKind) : Json → Reading WholeCounts :=
  record otherwise fun fields =>
    WholeCounts.mk
      <$> required fields "high_count" natural
      <*> required fields "medium_count" natural
      <*> required fields "low_count" natural
      <*> required fields "total" natural

/-- The counts as numbers. -/
def toCounts (counts : WholeCounts) : Counts :=
  ⟨.int counts.high, .int counts.medium, .int counts.low, .int counts.total⟩

end WholeCounts

/-- The ratings of one user in one skill. -/
structure SkillRatings where
  ratings : List Rating
  total : Option Nat

namespace SkillRatings

/-- The ratings, and how many subskills there are if that is said. -/
def read (otherwise : ProblemKind) : Json → Reading SkillRatings :=
  record otherwise fun fields =>
    SkillRatings.mk
      <$> required fields "ratings" (list (word Rating.ofName?))
      <*> optional fields "total_subskills" natural

end SkillRatings

namespace Tier

/-- The tiers of one user's skills in one category. -/
def readSkillTiers (otherwise : ProblemKind) : Json → Reading (List Tier) :=
  record otherwise fun fields => required fields "skill_tiers" (list (word ofName?))

end Tier

/-- What a dashboard is computed from. -/
structure DashboardQuery where
  catalog : Catalog
  countUnrated : Bool

namespace DashboardQuery

/-- A category. -/
def readCategory (otherwise : ProblemKind) : Json → Reading SkillCategory :=
  record otherwise fun fields =>
    SkillCategory.mk
      <$> required fields "id" text
      <*> required fields "name" text
      <*> optional fields "description" text

/-- A skill. -/
def readSkill (otherwise : ProblemKind) : Json → Reading Skill :=
  record otherwise fun fields =>
    Skill.mk
      <$> required fields "id" text
      <*> required fields "name" text
      <*> required fields "category_id" text

/-- A subskill. -/
def readSubskill (otherwise : ProblemKind) : Json → Reading Subskill :=
  record otherwise fun fields =>
    Subskill.mk
      <$> required fields "id" text
      <*> required fields "name" text
      <*> required fields "skill_id" text

/-- A rating, approved unless it says otherwise. -/
def readRating (otherwise : ProblemKind) : Json → Reading RatingRow :=
  record otherwise fun fields =>
    RatingRow.mk
      <$> required fields "user_id" text
      <*> optional fields "subskill_id" text
      <*> optional fields "skill_id" text
      <*> required fields "rating" (word Rating.ofName?)
      <*> withDefault fields "status" RatingRow.approved text

/-- A profile. -/
def readProfile (otherwise : ProblemKind) : Json → Reading UserProfile :=
  record otherwise fun fields =>
    UserProfile.mk
      <$> required fields "user_id" text
      <*> required fields "full_name" text
      <*> required fields "email" text

/-- The rows, and whether unrated subskills count. -/
def read (otherwise : ProblemKind) : Json → Reading DashboardQuery :=
  record otherwise fun fields =>
    (fun categories skills subskills ratings profiles countUnrated =>
      ⟨⟨categories, skills, subskills, ratings, profiles⟩, countUnrated⟩)
      <$> required fields "categories" (list (readCategory otherwise))
      <*> required fields "skills" (list (readSkill otherwise))
      <*> required fields "subskills" (list (readSubskill otherwise))
      <*> required fields "ratings" (list (readRating otherwise))
      <*> required fields "profiles" (list (readProfile otherwise))
      <*> withDefault fields "count_unrated_subskills" false truth

end DashboardQuery

end SkillTiers
