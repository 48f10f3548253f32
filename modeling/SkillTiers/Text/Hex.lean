/-
# Hexadecimal digits

Whole numbers in lower-case hexadecimal with a fixed number of places, and the
values of the digits of either case.
-/

namespace SkillTiers

/-- The lowest `places` hexadecimal digits of a number, highest first. -/
def hexChars : Nat → Nat → List Char
  | 0, _ => []
  | places + 1, value => hexChars places (value / 16) ++ [Nat.digitChar (value % 16)]

/-- The value of a hexadecimal digit. -/
def hexValue? (c : Char) : Option Nat :=
  if '0' ≤ c ∧ c ≤ '9' then some (c.toNat - '0'.toNat)
  else if 'a' ≤ c ∧ c ≤ 'f' then some (c.toNat - 'a'.toNat + 10)
  else if 'A' ≤ c ∧ c ≤ 'F' then some (c.toNat - 'A'.toNat + 10)
  else none

/-- The number that four hexadecimal digits spell. -/
def hexQuad? (a b c d : Char) : Option Nat := do
  return (((← hexValue? a) * 16 + (← hexValue? b)) * 16 + (← hexValue? c)) * 16
    + (← hexValue? d)

end SkillTiers
