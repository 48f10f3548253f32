/-
# Tiers and ratings

A classification ends in one of three tiers. Level rules are tried from the
highest tier down, and `beginner` is what remains when none matches. Subskills
carry one of three ratings. Both are written as fixed lower-case words.
-/

namespace SkillTiers

/-- The outcome of a classification, highest first. -/
inductive Tier where
  | expert
  | intermediate
  | beginner
deriving DecidableEq, Repr

namespace Tier

/-- The word for a tier. -/
def name : Tier → String
  | .expert => "expert"
  | .intermediate => "intermediate"
  | .beginner => "beginner"

/-- The order in which level rules are tried. -/
def priority : List Tier :=
  [.expert, .intermediate, .beginner]

/-- The tier that a word names exactly. -/
def ofName? (text : String) : Option Tier :=
  priority.find? (·.name == text)

end Tier

/-- The rating of one subskill. -/
inductive Rating where
  | high
  | medium
  | low
deriving DecidableEq, Repr

namespace Rating

/-- The word for a rating. -/
def name : Rating → String
  | .high => "high"
  | .medium => "medium"
  | .low => "low"

/-- The rating that a word names exactly. -/
def ofName? (text : String) : Option Rating :=
  [high, medium, low].find? (·.name == text)

end Rating

end SkillTiers
