/-
# The range of double precision

A quotient of integers has a nearest double if and only if it lies below the middle
between the greatest double and 2^1024, which is `rangeLimit`: the middle itself is
a tie, and goes to the neighbour that is out of range. So an integer has a nearest
double exactly if its size is below the limit (`Double.ofInt?_isSome`), and a
quotient exactly if its numerator is below the limit times its denominator
(`Double.ofIntQuotient?_isSome`).
-/

import SkillTiers.Number.Basic
import SkillTiers.Proofs.Number.Rounding
import Mathlib.Tactic.Linarith

namespace SkillTiers

-- A power is the one of the core library, whatever else is imported.
attribute [local instance (high)] instPowNat

/-- How many binary places half a step at the top of the range has. -/
@[irreducible] def topPlaces : Nat :=
  970

/-- The least size that rounds out of range: 2^1024 less half a step at the top of the
range. -/
def rangeLimit : Nat :=
  (2 ^ (54 : Nat) - 1) * 2 ^ topPlaces

/-- Rounding to the nearest whole number stays below an even number up to the middle
before it. -/
theorem nearestQuotient_lt_iff {num den bound : Nat} (hden : 0 < den) (hpos : 0 < bound)
    (heven : bound % 2 = 0) :
    nearestQuotient num den < bound ↔ 2 * num < (2 * bound - 1) * den := by
  have hsplit : den * (num / den) + num % den = num := Nat.div_add_mod num den
  have hrest : num % den < den := Nat.mod_lt num hden
  have hhalf : (2 * bound - 1) * den + den = 2 * (bound * den) := by
    have hone : 2 * bound = 2 * bound - 1 + 1 := by omega
    rw [← Nat.mul_assoc]
    conv_rhs => rw [hone]
    rw [Nat.add_mul, Nat.one_mul]
  rcases Nat.lt_trichotomy (num / den + 1) bound with hbelow | hmiddle | habove
  · have hnear := nearestQuotient_le num den
    have hproduct : den * (num / den) + 2 * den ≤ bound * den := by
      have := Nat.mul_le_mul_right den (by omega : num / den + 2 ≤ bound)
      rw [Nat.add_mul, Nat.mul_comm (num / den)] at this
      exact this
    constructor
    · intro _
      omega
    · intro _
      omega
  · -- Just below the bound the rounding decides, and a tie goes up to the even number.
    have hproduct : den * (num / den) + den = bound * den := by
      rw [← hmiddle, Nat.add_mul, Nat.one_mul, Nat.mul_comm]
    have hodd : num / den % 2 = 1 := by omega
    unfold nearestQuotient
    dsimp only
    split
    · constructor <;> intro _ <;> omega
    · split
      · constructor <;> intro _ <;> omega
      · rw [if_neg (by omega)]
        constructor <;> intro _ <;> omega
  · have hnear := le_nearestQuotient num den
    have hproduct : bound * den ≤ den * (num / den) := by
      rw [Nat.mul_comm den]
      exact Nat.mul_le_mul_right den (by omega)
    constructor
    · intro _
      omega
    · intro _
      omega

/-- The binary places of half a step at the top of the range, in units. -/
@[irreducible] private def halfPlaces : Nat :=
  unitPlaces + topPlaces

private theorem rangeBits_eq : rangeBits = 54 + halfPlaces := by
  unfold halfPlaces topPlaces
  rfl

/-- Half a step at the top of the range, in units. -/
private def halfStep : Nat :=
  2 ^ halfPlaces

private theorem halfStep_pos : 0 < halfStep :=
  Nat.two_pow_pos halfPlaces

/-- The powers of two from the topmost place on, in halves of its steps. -/
private theorem two_pow_eq (places : Nat) :
    2 ^ (places + halfPlaces) = 2 ^ places * halfStep :=
  Nat.pow_add 2 places halfPlaces

private theorem log2_lt {units places : Nat} (hplaces : 0 < places)
    (hlt : units < 2 ^ places * halfStep) : units.log2 < places + halfPlaces := by
  by_cases hzero : units = 0
  · rw [hzero, Nat.log2_zero]
    omega
  · exact (Nat.log2_lt hzero).mpr (by rw [two_pow_eq]; exact hlt)

private theorem le_log2 {units places : Nat} (hle : 2 ^ places * halfStep ≤ units) :
    places + halfPlaces ≤ units.log2 := by
  have hpos : units ≠ 0 := by
    have := Nat.mul_pos (Nat.two_pow_pos places) halfStep_pos
    omega
  exact (Nat.le_log2 hpos).mpr (by rw [two_pow_eq]; exact hle)

private theorem unitsCeiling_eq : unitsCeiling = 2 ^ (54 : Nat) * halfStep := by
  unfold unitsCeiling
  rw [rangeBits_eq, two_pow_eq]

private theorem limit_eq : unitsPerOne * rangeLimit = (2 ^ (54 : Nat) - 1) * halfStep := by
  unfold unitsPerOne rangeLimit halfStep halfPlaces
  rw [Nat.pow_add, Nat.mul_left_comm]

/-- Below the topmost binary place rounding stays in range. -/
private theorem roundUnits_le {num den : Nat}
    (hlow : num / den < 2 ^ (53 : Nat) * halfStep) :
    roundUnits num den ≤ 2 ^ (53 : Nat) * halfStep := by
  have hspacing : spacing (num / den) ≤ halfStep := by
    have hlog := log2_lt (by decide) hlow
    exact Nat.pow_le_pow_right (by decide) (by omega)
  have hsteps : nearestQuotient num (den * spacing (num / den)) ≤ 2 ^ (53 : Nat) := by
    have hnear := nearestQuotient_le num (den * spacing (num / den))
    rw [← Nat.div_div_eq_div_mul] at hnear
    have := div_spacing_lt (num / den)
    omega
  exact Nat.mul_le_mul hsteps hspacing

/-- At the topmost binary place rounding stays in range up to the middle before its
end. -/
private theorem roundUnits_top {num den : Nat} (hden : 0 < den)
    (hhigh : 2 ^ (53 : Nat) * halfStep ≤ num / den)
    (htop : num / den < 2 ^ (54 : Nat) * halfStep) :
    roundUnits num den < 2 ^ (54 : Nat) * halfStep ↔
      num < (2 ^ (54 : Nat) - 1) * halfStep * den := by
  have hstep : 0 < 2 * halfStep := Nat.mul_pos (by decide) halfStep_pos
  have hspacing : spacing (num / den) = 2 * halfStep := by
    have hlower := le_log2 hhigh
    have hupper := log2_lt (by decide) htop
    have hplaces : (num / den).log2 - 52 = 1 + halfPlaces := by omega
    unfold spacing
    rw [hplaces, two_pow_eq]
  have hceiling : 2 ^ (54 : Nat) * halfStep = 2 ^ (53 : Nat) * (2 * halfStep) := by omega
  have hlimit : (2 * 2 ^ (53 : Nat) - 1) * (den * (2 * halfStep)) =
      2 * ((2 ^ (54 : Nat) - 1) * halfStep * den) := by ring
  unfold roundUnits
  dsimp only
  rw [hspacing, hceiling, Nat.mul_lt_mul_right hstep,
    nearestQuotient_lt_iff (Nat.mul_pos hden hstep) (by decide) (by decide), hlimit]
  exact Nat.mul_lt_mul_left (by decide)

/-- A quotient rounds into the range if and only if it is below the limit. -/
theorem roundUnits_lt_unitsCeiling {num den : Nat} (hden : 0 < den) :
    roundUnits num den < unitsCeiling ↔ num < unitsPerOne * rangeLimit * den := by
  have hstep := halfStep_pos
  have hquotient : num < (num / den + 1) * den := by
    have := Nat.lt_mul_div_succ num hden
    rwa [Nat.mul_comm] at this
  have hbelow : 2 ^ (53 : Nat) * halfStep * den ≤ (2 ^ (54 : Nat) - 1) * halfStep * den :=
    Nat.mul_le_mul_right den (Nat.mul_le_mul_right halfStep (by decide))
  have hbeyond : (2 ^ (54 : Nat) - 1) * halfStep * den ≤ 2 ^ (54 : Nat) * halfStep * den :=
    Nat.mul_le_mul_right den (Nat.mul_le_mul_right halfStep (by decide))
  rw [limit_eq, unitsCeiling_eq]
  rcases Nat.lt_or_ge (num / den) (2 ^ (53 : Nat) * halfStep) with hlow | hhigh
  · have hround := roundUnits_le hlow
    have hnum : num < 2 ^ (53 : Nat) * halfStep * den :=
      lt_of_lt_of_le hquotient (Nat.mul_le_mul_right den hlow)
    exact iff_of_true (by omega) (lt_of_lt_of_le hnum hbelow)
  · rcases Nat.lt_or_ge (num / den) (2 ^ (54 : Nat) * halfStep) with htop | hout
    · exact roundUnits_top hden hhigh htop
    · have hround : 2 ^ (54 : Nat) * halfStep ≤ roundUnits num den := by
        rw [← two_pow_eq, ← rangeBits_eq]
        refine two_pow_le_roundUnits (by decide) ?_
        rw [rangeBits_eq, two_pow_eq]
        exact hout
      have hnum : 2 ^ (54 : Nat) * halfStep * den ≤ num :=
        le_trans (Nat.mul_le_mul_right den hout) (Nat.div_mul_le_self num den)
      exact iff_of_false (Nat.not_lt.mpr hround)
        (Nat.not_lt.mpr (le_trans hbeyond hnum))

theorem Magnitude.round?_isSome {num den : Nat} (hden : 0 < den) :
    (round? num den).isSome ↔ num < unitsPerOne * rangeLimit * den := by
  rw [← roundUnits_lt_unitsCeiling hden]
  unfold round?
  split
  · exact iff_of_true rfl ‹_›
  · exact iff_of_false Bool.false_ne_true ‹_›

namespace Double

/-- The integers with a nearest double. -/
theorem ofInt?_isSome (value : Int) : (ofInt? value).isSome ↔ value.natAbs < rangeLimit := by
  unfold ofInt?
  rw [Option.isSome_map, Magnitude.round?_isSome Nat.one_pos, Nat.mul_one]
  exact Nat.mul_lt_mul_left (Nat.two_pow_pos unitPlaces)

/-- The quotients of integers with a nearest double. -/
theorem ofIntQuotient?_isSome {num den : Int} (hden : den ≠ 0) :
    (ofIntQuotient? num den).isSome ↔ num.natAbs < rangeLimit * den.natAbs := by
  unfold ofIntQuotient?
  rw [Option.isSome_map, Magnitude.round?_isSome (Int.natAbs_pos.mpr hden), Nat.mul_assoc]
  exact Nat.mul_lt_mul_left (Nat.two_pow_pos unitPlaces)

end Double

namespace Number

/-- An integer is converted to a double if and only if it is below the limit. -/
theorem toDouble_int_cases (value : Int) :
    (value.natAbs < rangeLimit ∧ ∃ double, (int value).toDouble = .ok double) ∨
      (rangeLimit ≤ value.natAbs ∧ (int value).toDouble = .error .conversion) := by
  have hsome := Double.ofInt?_isSome value
  unfold toDouble
  dsimp only
  cases hdouble : Double.ofInt? value with
  | some double =>
      rw [hdouble] at hsome
      exact .inl ⟨hsome.mp rfl, double, rfl⟩
  | none =>
      rw [hdouble] at hsome
      exact .inr ⟨Nat.not_lt.mp fun h => Bool.false_ne_true (hsome.mpr h), rfl⟩

/-- The quotient of integers is there if and only if it is below the limit. -/
theorem div_int_cases {num den : Int} (hden : den ≠ 0) :
    (num.natAbs < rangeLimit * den.natAbs ∧ ∃ double, (int num).div (int den) = .ok double) ∨
      (rangeLimit * den.natAbs ≤ num.natAbs ∧ (int num).div (int den) = .error .division) := by
  have hsome := @Double.ofIntQuotient?_isSome num den hden
  unfold div
  dsimp only
  cases hdouble : Double.ofIntQuotient? num den with
  | some double =>
      rw [hdouble] at hsome
      exact .inl ⟨hsome.mp rfl, double, rfl⟩
  | none =>
      rw [hdouble] at hsome
      exact .inr ⟨Nat.not_lt.mp fun h => Bool.false_ne_true (hsome.mpr h), rfl⟩

end Number

end SkillTiers
