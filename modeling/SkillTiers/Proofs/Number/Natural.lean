/-
# Natural numbers in double precision

Natural numbers and their quotients have no sign, so what is made of them is a magnitude.
Below 2^53 they are magnitudes themselves (`Number.toDouble_nat_small`), and a magnitude is
not changed when nothing is added to it (`Double.zero_add_finite`).
-/

import SkillTiers.Number.Basic
import SkillTiers.Proofs.Number.Bracket

namespace SkillTiers

-- A power is the one of the core library, whatever else is imported.
attribute [local instance (high)] instPowNat

/-- A natural number is not below zero. -/
theorem decide_natCast_neg (value : Nat) : decide ((value : Int) < 0) = false :=
  decide_eq_false (Int.not_lt.mpr (Int.natCast_nonneg value))

/-- A quotient that a magnitude bounds is in range. -/
theorem Magnitude.round?_of_le {num den : Nat} (hden : 0 < den) (bound : Magnitude)
    (hle : num ≤ bound.units * den) :
    ∃ size : Magnitude, round? num den = some size ∧ size.units = roundUnits num den ∧
      size.units ≤ bound.units := by
  have hbound := roundUnits_le_units hden bound.onGrid hle
  have hrange := Nat.lt_of_le_of_lt hbound bound.inRange
  refine ⟨⟨_, spacing_dvd_roundUnits num den, hrange⟩, ?_, rfl, hbound⟩
  unfold round?
  rw [dif_pos hrange]

namespace Double

/-- The product with a natural number is the magnitude nearest to it. -/
theorem mul_natural {size factor product : Magnitude} {value : Nat}
    (hfactor : factor.units = unitsPerOne * value)
    (hround : Magnitude.round? (size.units * value) 1 = some product) :
    (finite false size).mul (finite false factor) = finite false product := by
  have hvalue : size.units * factor.units * 1 = size.units * value * unitsPerOne := by
    rw [hfactor]
    ring
  unfold mul ofUnits
  dsimp only
  rw [Magnitude.round?_congr unitsPerOne_pos Nat.one_pos hvalue, hround]
  rfl

/-- The quotient of natural numbers is the magnitude nearest to it. -/
theorem ofIntQuotient?_nat (num den : Nat) :
    ofIntQuotient? num den = (Magnitude.round? (unitsPerOne * num) den).map (.finite false) := by
  unfold ofIntQuotient?
  simp only [Int.natAbs_natCast, decide_natCast_neg]
  rfl

/-- A natural number is the magnitude nearest to it. -/
theorem ofInt?_nat (value : Nat) :
    ofInt? value = (Magnitude.round? (unitsPerOne * value) 1).map (.finite false) := by
  unfold ofInt?
  simp only [Int.natAbs_natCast, decide_natCast_neg]

/-- The sum of doubles that are not negative is the magnitude nearest to it. -/
theorem add_natural {x y sum : Magnitude}
    (hround : Magnitude.round? (x.units + y.units) 1 = some sum) :
    (finite false x).add (finite false y) = finite false sum := by
  have htotal : signedUnits false x + signedUnits false y = (x.units + y.units : Nat) :=
    (Int.natCast_add _ _).symm
  unfold add
  simp only [htotal]
  by_cases hnothing : x.units + y.units = 0
  · rw [hnothing, Magnitude.round?_eq_zero (by decide)] at hround
    cases hround
    rw [if_pos (Int.natCast_eq_zero.mpr hnothing)]
    rfl
  · rw [if_neg (mt Int.natCast_eq_zero.mp hnothing), Int.natAbs_natCast, decide_natCast_neg]
    unfold ofUnits
    rw [hround]

/-- A double that is not negative stays as it is when it is added to nothing. -/
theorem zero_add_finite (size : Magnitude) :
    zero.add (.finite false size) = .finite false size := by
  apply add_natural
  have hround := Magnitude.round?_units_mul size 1 Nat.one_pos
  rw [Nat.mul_one] at hround
  rw [show Magnitude.zero.units = 0 from rfl, Nat.zero_add, hround]

end Double

namespace Number

/-- A natural number in double precision is the magnitude nearest to it. -/
theorem toDouble_nat_eq {value : Nat} {double : Double}
    (hdouble : (int value).toDouble = .ok double) :
    ∃ size : Magnitude, double = .finite false size ∧
      size.units = roundUnits (unitsPerOne * value) 1 := by
  unfold toDouble at hdouble
  dsimp only at hdouble
  rw [Double.ofInt?_nat] at hdouble
  unfold Magnitude.round? at hdouble
  split at hdouble
  · rename_i double' hround
    split at hround
    · cases hround
      cases hdouble
      exact ⟨_, rfl, rfl⟩
    · cases hround
  · cases hdouble

/-- A natural number below 2^53 is a magnitude. -/
theorem toDouble_nat_small {value : Nat} (hvalue : value < 2 ^ (53 : Nat)) :
    ∃ size : Magnitude, (int value).toDouble = .ok (.finite false size) ∧
      size.units = unitsPerOne * value := by
  have hround : roundUnits (unitsPerOne * value) 1 = unitsPerOne * value := by
    have hwhole := roundUnits_whole (Nat.zero_le unitPlaces) Nat.one_pos
      (by rwa [Nat.pow_zero, Nat.mul_one] : value * 2 ^ 0 < 2 ^ (53 : Nat))
    rwa [Nat.mul_one] at hwhole
  have hunits : roundUnits (unitsPerOne * value) 1 < unitsCeiling := by
    rw [hround]
    unfold unitsPerOne unitsCeiling
    calc 2 ^ unitPlaces * value < 2 ^ unitPlaces * 2 ^ (53 : Nat) :=
          Nat.mul_lt_mul_of_pos_left hvalue unitsPerOne_pos
      _ = 2 ^ (unitPlaces + 53) := (Nat.pow_add 2 unitPlaces 53).symm
      _ ≤ 2 ^ rangeBits := Nat.pow_le_pow_right (by decide) (by decide)
  refine ⟨⟨_, spacing_dvd_roundUnits _ _, hunits⟩, ?_, hround⟩
  unfold toDouble
  dsimp only
  rw [Double.ofInt?_nat, Magnitude.round?, dif_pos hunits]
  rfl

/-- An integer is above zero as it is. -/
theorem zero_lt_int (value : Int) : (0 : Number).lt (int value) = decide (0 < value) := by
  have hunits : (0 : Int) < unitsPerOne := Int.natCast_pos.mpr unitsPerOne_pos
  have hscaled : 0 < value * unitsPerOne ↔ 0 < value :=
    ⟨fun h => Int.pos_of_mul_pos_left h hunits, fun h => Int.mul_pos h hunits⟩
  have hzero : (0 : Number) = int 0 := rfl
  rw [hzero]
  simp only [lt, related, place?, Int.zero_mul, Place.before, hscaled]

/-- A number above zero is above zero in double precision too. -/
theorem zero_lt_toDouble {x : Number} (hpositive : (0 : Number).lt x = true) {double : Double}
    (hdouble : x.toDouble = .ok double) : (0 : Number).lt (.float double) = true := by
  cases x with
  | float value =>
      cases hdouble
      exact hpositive
  | int value =>
      rw [zero_lt_int, decide_eq_true_iff] at hpositive
      lift value to Nat using Int.le_of_lt hpositive
      obtain ⟨size, rfl, hunits⟩ := toDouble_nat_eq hdouble
      -- One unit is a magnitude, and the number has at least that many.
      have hsize : 1 ≤ size.units := by
        rw [hunits]
        refine units_le_roundUnits Nat.one_pos (by decide) ?_
        exact Nat.mul_pos unitsPerOne_pos (Int.natCast_pos.mp hpositive)
      have hzero : (0 : Number).place? = some (.point 0) := by decide +kernel
      unfold lt related
      rw [hzero]
      exact decide_eq_true (Int.natCast_pos.mpr hsize)

/-- Doubles are added as doubles. -/
theorem float_add_float (first second : Double) :
    (Number.float first).add (.float second) = .ok (.float (first.add second)) :=
  rfl

/-- Nothing is added to a double as a double. -/
theorem zero_add_float (value : Double) :
    (0 : Number).add (.float value) = .ok (.float (Double.zero.add value)) := by
  have hzero : (0 : Number).toDouble = .ok Double.zero := by decide +kernel
  rw [add_float, hzero]
  rfl

/-- So it is from the other side. -/
theorem float_add_zero (value : Double) :
    (Number.float value).add 0 = .ok (.float (value.add Double.zero)) := by
  have hzero : (0 : Number).toDouble = .ok Double.zero := by decide +kernel
  rw [float_add, hzero]
  rfl

end Number

end SkillTiers
