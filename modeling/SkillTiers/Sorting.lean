/-
# Sorting

Items are sorted from the last one on: each is put in front of the first one that it may
come before. So of items that may stand in either order the earlier one stays in front.
-/

namespace SkillTiers

variable {Item : Type}

/-- Sorted items with one more in its place. -/
def insertBy (upTo : Item → Item → Bool) (item : Item) : List Item → List Item
  | [] => [item]
  | next :: rest =>
    if upTo item next then item :: next :: rest else next :: insertBy upTo item rest

/-- The items in order. -/
def sortBy (upTo : Item → Item → Bool) : List Item → List Item
  | [] => []
  | item :: rest => insertBy upTo item (sortBy upTo rest)

end SkillTiers
