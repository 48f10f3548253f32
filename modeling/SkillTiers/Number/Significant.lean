/-
# Significant digits

A size in decimal is a whole coefficient and a power of ten. Every magnitude is
such a decimal exactly, because a unit is 5^1074 times 10^-1074; the two ways to
cut that expansion short are here. `Magnitude.shortest` keeps the fewest digits
that round back to the magnitude, the nearer decimal where two do;
`Magnitude.toDigitCount` keeps a fixed number of digits, a tie going to the even
one.
-/

import SkillTiers.Number.Double

namespace SkillTiers

-- A power is the one of the core library, whatever else is imported.
attribute [local instance (high)] instPowNat

/-- The size `coefficient * 10 ^ exponent`. -/
structure Decimal where
  coefficient : Nat
  exponent : Int
deriving DecidableEq

namespace Decimal

/-- The digits of the coefficient. -/
def digits (decimal : Decimal) : List Char :=
  Nat.toDigits 10 decimal.coefficient

/-- Where the point stands, counted from the left of the digits. -/
def point (decimal : Decimal) : Int :=
  decimal.digits.length + decimal.exponent

/-- The magnitude nearest to the decimal, if it is in range. -/
def magnitude? (decimal : Decimal) : Option Magnitude :=
  Magnitude.round?
    (unitsPerOne * (10 ^ decimal.exponent.toNat * decimal.coefficient))
    (10 ^ (-decimal.exponent).toNat)

/-- The double nearest to the decimal under a sign. A decimal that is at least
10^310 is out of range, and one below 10^-330 rounds to nothing, whatever its
digits; only between them is the power of ten worked out. -/
def toDouble (negative : Bool) (decimal : Decimal) : Double :=
  if decimal.coefficient = 0 then .finite negative .zero
  else if 310 < decimal.point then .infinite negative
  else if decimal.point < -330 then .finite negative .zero
  else
    match decimal.magnitude? with
    | some size => .finite negative size
    | none => .infinite negative

end Decimal

namespace Magnitude

/-- The magnitude as a decimal, exactly. -/
def exactDecimal (size : Magnitude) : Decimal :=
  ⟨5 ^ unitPlaces * size.units, -unitPlaces⟩

/-- How many digits of the exact decimal stand beyond the first `count`. -/
def surplus (size : Magnitude) (count : Nat) : Nat :=
  size.exactDecimal.digits.length - count

/-- The magnitude to `count` digits, half way to the even one. -/
def toDigitCount (size : Magnitude) (count : Nat) : Decimal :=
  let places := size.surplus count
  ⟨nearestQuotient size.exactDecimal.coefficient (10 ^ places), (places : Int) - unitPlaces⟩

/-- The decimal with `count` digits beside `toDigitCount`, on the other side of
the magnitude. -/
def besideDigitCount (size : Magnitude) (count : Nat) : Decimal :=
  let places := size.surplus count
  let below := size.exactDecimal.coefficient / 10 ^ places
  let nearest := nearestQuotient size.exactDecimal.coefficient (10 ^ places)
  ⟨if nearest = below then below + 1 else below, (places : Int) - unitPlaces⟩

/-- Whether the magnitude is the one nearest to the decimal. -/
def readsBack (size : Magnitude) (decimal : Decimal) : Bool :=
  decide (decimal.magnitude? = some size)

/-- A decimal with `count` digits that reads back, the nearer of two. -/
def withDigitCount? (size : Magnitude) (count : Nat) : Option Decimal :=
  [size.toDigitCount count, size.besideDigitCount count].find? size.readsBack

/-- The decimal with the fewest digits that reads back. Seventeen digits always
do. -/
def shortest (size : Magnitude) : Decimal :=
  ((List.range' 1 17).findSome? size.withDigitCount?).getD size.exactDecimal

end Magnitude

end SkillTiers
