/-
# Numbers

A number is an integer of any size or a double. Integers are added, multiplied
and compared exactly; a sum, product or quotient that involves a double is taken
in doubles, and the quotient of two integers is the double nearest to the exact
one. The only failures are integers and integer quotients beyond the range of
doubles (`Overflow`). Comparison never rounds: each number has a place on the
line, and the undefined value has none.
-/

import SkillTiers.Number.Double

namespace SkillTiers

/-- An integer or a double, kept apart even where their values agree. -/
inductive Number where
  | int (value : Int)
  | float (value : Double)
deriving DecidableEq

/-- The ways arithmetic on numbers can leave the range of doubles. -/
inductive Overflow where
  /-- An integer has no nearest double. -/
  | conversion
  /-- A quotient of integers has no nearest double. -/
  | division
deriving DecidableEq

/-- A point of the extended line on which numbers are compared. -/
inductive Place where
  | belowAll
  | point (units : Int)
  | aboveAll
deriving DecidableEq

namespace Place

/-- Whether the first place lies before the second. -/
def before : Place → Place → Bool
  | .belowAll, .belowAll => false
  | .belowAll, _ => true
  | .point x, .point y => decide (x < y)
  | .point _, .aboveAll => true
  | _, _ => false

end Place

namespace Number

instance (value : Nat) : OfNat Number value :=
  ⟨.int value⟩

/-- The number as a double. -/
def toDouble : Number → Except Overflow Double
  | .float value => .ok value
  | .int value =>
    match Double.ofInt? value with
    | some double => .ok double
    | none => .error .conversion

/-- The sum: exact on integers, else taken in doubles. -/
def add : Number → Number → Except Overflow Number
  | .int x, .int y => .ok (.int (x + y))
  | x, y => do return .float ((← x.toDouble).add (← y.toDouble))

/-- A double is added as a double. -/
theorem add_float (x : Number) (value : Double) :
    x.add (.float value) = x.toDouble.map fun double => .float (double.add value) := by
  cases x with
  | float first => rfl
  | int first =>
      rw [add]
      · cases (Number.int first).toDouble <;> rfl
      · nofun

/-- So it is from the other side. -/
theorem float_add (value : Double) (y : Number) :
    (Number.float value).add y = y.toDouble.map fun double => .float (value.add double) := by
  cases y with
  | float second => rfl
  | int second =>
      rw [add]
      · cases (Number.int second).toDouble <;> rfl
      · nofun

/-- The product: exact on integers, else taken in doubles. -/
def mul : Number → Number → Except Overflow Number
  | .int x, .int y => .ok (.int (x * y))
  | x, y => do return .float ((← x.toDouble).mul (← y.toDouble))

/-- The quotient by a number other than zero, rounded once for two integers. -/
def div : Number → Number → Except Overflow Double
  | .int x, .int y =>
    match Double.ofIntQuotient? x y with
    | some quotient => .ok quotient
    | none => .error .division
  | x, y => do return (← x.toDouble).div (← y.toDouble)

/-- Where the number lies, exactly; the undefined value lies nowhere. -/
def place? : Number → Option Place
  | .int value => some (.point (value * unitsPerOne))
  | .float (.finite negative size) => some (.point (Double.signedUnits negative size))
  | .float (.infinite negative) => some (if negative then .belowAll else .aboveAll)
  | .float .nan => none

/-- Whether two numbers have places that stand in a relation. -/
def related (relation : Place → Place → Bool) (x y : Number) : Bool :=
  match x.place?, y.place? with
  | some p, some q => relation p q
  | _, _ => false

/-- Exactly less; false on the undefined value. -/
def lt (x y : Number) : Bool :=
  related Place.before x y

/-- Exactly less or of equal value; false on the undefined value. -/
def le (x y : Number) : Bool :=
  related (fun p q => !q.before p) x y

/-- Of equal value; false on the undefined value, true on the two zeros. -/
def same (x y : Number) : Bool :=
  related (fun p q => p == q) x y

/-- Whether the number is zero, of either kind and sign. -/
def isZero (x : Number) : Bool :=
  x.same 0

/-- Whether the number is below zero. -/
def isNegative (x : Number) : Bool :=
  x.lt 0

end Number

end SkillTiers
