/-
# Double-precision numbers

`Double` is the set of values of a 64-bit floating-point number: the finite
magnitudes with a sign, so that zero comes in two signs, the two infinities and
one undefined value. Each value has exactly one form, hence equality of forms is
equality of values, zero's sign included. Every operation is the exact result
rounded once to the nearest magnitude.
-/

import SkillTiers.Number.Rounding

namespace SkillTiers

/-- A finite size of double precision, in units of 2^-1074. -/
structure Magnitude where
  /-- How many units. -/
  units : Nat
  /-- The size lies on the grid of its own binary place. -/
  onGrid : spacing units ∣ units
  /-- The size is below the first one out of range. -/
  inRange : units < unitsCeiling
deriving DecidableEq

namespace Magnitude

/-- The size nothing. -/
def zero : Magnitude :=
  ⟨0, Nat.dvd_zero _, unitsCeiling_pos⟩

/-- The magnitude nearest to `num / den` units, if that is in range. -/
def round? (num den : Nat) : Option Magnitude :=
  if h : roundUnits num den < unitsCeiling then
    some ⟨roundUnits num den, spacing_dvd_roundUnits num den, h⟩
  else
    none

end Magnitude

/-- A double-precision number. -/
inductive Double where
  /-- A finite number: its sign and its size. -/
  | finite (negative : Bool) (size : Magnitude)
  /-- One of the two infinities. -/
  | infinite (negative : Bool)
  /-- The undefined value. -/
  | nan
deriving DecidableEq

namespace Double

/-- Positive zero. -/
def zero : Double :=
  .finite false .zero

/-- The double nearest to `num / den` units under a sign, an infinity when the
quotient rounds out of range. -/
def ofUnits (negative : Bool) (num den : Nat) : Double :=
  match Magnitude.round? num den with
  | some size => .finite negative size
  | none => .infinite negative

/-- The double nearest to an integer, if one is in range. -/
def ofInt? (value : Int) : Option Double :=
  (Magnitude.round? (unitsPerOne * value.natAbs) 1).map (.finite (decide (value < 0)))

/-- The double nearest to the quotient of two integers, if one is in range. Zero
takes the sign of the divisor. -/
def ofIntQuotient? (num den : Int) : Option Double :=
  (Magnitude.round? (unitsPerOne * num.natAbs) den.natAbs).map
    (.finite (decide (num < 0) != decide (den < 0)))

/-- Whether the number is the undefined value. -/
def isNaN : Double → Bool
  | .nan => true
  | _ => false

/-- Whether the number is finite. -/
def isFinite : Double → Bool
  | .finite _ _ => true
  | _ => false

/-- A finite number with its sign, in units. -/
def signedUnits (negative : Bool) (size : Magnitude) : Int :=
  if negative then -(size.units : Int) else size.units

/-- The rounded sum. A sum of nothing is positive unless both terms are negative
zeros. -/
def add : Double → Double → Double
  | .nan, _ => .nan
  | _, .nan => .nan
  | .infinite a, .infinite b => if a = b then .infinite a else .nan
  | .infinite a, .finite _ _ => .infinite a
  | .finite _ _, .infinite b => .infinite b
  | .finite a x, .finite b y =>
    let total := signedUnits a x + signedUnits b y
    if total = 0 then .finite (a && b) .zero
    else ofUnits (decide (total < 0)) total.natAbs 1

/-- The rounded product. -/
def mul : Double → Double → Double
  | .nan, _ => .nan
  | _, .nan => .nan
  | .infinite a, .infinite b => .infinite (a != b)
  | .infinite a, .finite b y => if y.units = 0 then .nan else .infinite (a != b)
  | .finite a x, .infinite b => if x.units = 0 then .nan else .infinite (a != b)
  | .finite a x, .finite b y => ofUnits (a != b) (x.units * y.units) unitsPerOne

/-- The rounded quotient. -/
def div : Double → Double → Double
  | .nan, _ => .nan
  | _, .nan => .nan
  | .infinite _, .infinite _ => .nan
  | .infinite a, .finite b _ => .infinite (a != b)
  | .finite a _, .infinite b => .finite (a != b) .zero
  | .finite a x, .finite b y =>
    if y.units = 0 then
      if x.units = 0 then .nan else .infinite (a != b)
    else
      ofUnits (a != b) (unitsPerOne * x.units) y.units

end Double

end SkillTiers
