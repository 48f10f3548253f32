/-
# Texts that say something

Where an empty text means the same as none, it is taken for none.
-/

namespace SkillTiers

/-- A text unless it is empty. -/
def nonempty? (text : Option String) : Option String :=
  text.filter (!·.isEmpty)

end SkillTiers
