/-
# Laws of rounding to double precision

The rounded quotient depends on the value of a quotient and not on the two numbers
that write it (`roundUnits_congr`). Rounding changes nothing that is a magnitude
already (`round?_units_mul`), never falls below a power of two that the
quotient reaches, and takes what is less than half a unit to nothing.
-/

import SkillTiers.Number.Double
import Mathlib.Tactic.Ring

namespace SkillTiers

/-- A common factor does not change the nearest whole number. -/
theorem nearestQuotient_mul_right (num den factor : Nat) (hfactor : 0 < factor) :
    nearestQuotient (num * factor) (den * factor) = nearestQuotient num den := by
  have hless (x y : Nat) : 2 * (x * factor) < y * factor ↔ 2 * x < y := by
    rw [← Nat.mul_assoc]
    exact Nat.mul_lt_mul_right hfactor
  have hmore (x y : Nat) : y * factor < 2 * (x * factor) ↔ y < 2 * x := by
    rw [← Nat.mul_assoc]
    exact Nat.mul_lt_mul_right hfactor
  unfold nearestQuotient
  simp only [Nat.mul_div_mul_right _ _ hfactor, Nat.mul_mod_mul_right, hless, hmore]

/-- A common factor does not change the nearest magnitude. -/
theorem roundUnits_mul_right (num den factor : Nat) (hfactor : 0 < factor) :
    roundUnits (num * factor) (den * factor) = roundUnits num den := by
  unfold roundUnits
  simp only [Nat.mul_div_mul_right _ _ hfactor]
  rw [Nat.mul_right_comm, nearestQuotient_mul_right _ _ _ hfactor]

/-- Quotients of one value have one nearest magnitude. -/
theorem roundUnits_congr {num den num' den' : Nat} (hden : 0 < den) (hden' : 0 < den')
    (hvalue : num * den' = num' * den) : roundUnits num den = roundUnits num' den' := by
  rw [← roundUnits_mul_right num den den' hden', hvalue,
    ← roundUnits_mul_right num' den' den hden, Nat.mul_comm den den']

/-- Every number on the grid of its own size is its own nearest magnitude. -/
theorem roundUnits_of_spacing_dvd (units : Nat) (hgrid : spacing units ∣ units) :
    roundUnits units 1 = units := by
  have hrest : units % spacing units = 0 := Nat.mod_eq_zero_of_dvd hgrid
  unfold roundUnits nearestQuotient
  simp only [Nat.div_one, Nat.one_mul, hrest, Nat.mul_zero, spacing_pos, if_true]
  exact Nat.div_mul_cancel hgrid

/-- A power of two that a quotient reaches is reached after rounding too. -/
theorem two_pow_le_roundUnits {num den places : Nat} (hplaces : 52 ≤ places)
    (hle : 2 ^ places ≤ num / den) : 2 ^ places ≤ roundUnits num den := by
  have hpos : num / den ≠ 0 := by
    have := Nat.two_pow_pos places
    omega
  have hlog : places ≤ (num / den).log2 := (Nat.le_log2 hpos).mpr hle
  have hstep : 2 ^ (num / den).log2 = 2 ^ 52 * spacing (num / den) := by
    unfold spacing
    rw [← Nat.pow_add]
    congr 1
    omega
  -- The significand keeps its leading bit, whichever way the rest is rounded.
  have hsignificand : 2 ^ 52 ≤ num / den / spacing (num / den) := by
    rw [Nat.le_div_iff_mul_le (spacing_pos _), ← hstep]
    exact Nat.log2_self_le hpos
  calc 2 ^ places ≤ 2 ^ (num / den).log2 := Nat.pow_le_pow_right (by decide) hlog
    _ = 2 ^ 52 * spacing (num / den) := hstep
    _ ≤ nearestQuotient num (den * spacing (num / den)) * spacing (num / den) := by
      apply Nat.mul_le_mul_right
      apply le_trans hsignificand
      rw [Nat.div_div_eq_div_mul]
      exact le_nearestQuotient num (den * spacing (num / den))

/-- What is less than half a unit rounds to nothing. -/
theorem roundUnits_eq_zero {num den : Nat} (hsmall : 2 * num < den) :
    roundUnits num den = 0 := by
  have hquotient : num / den = 0 := Nat.div_eq_of_lt (by omega)
  have hspacing : spacing 0 = 1 := rfl
  unfold roundUnits nearestQuotient
  simp only [hquotient, hspacing, Nat.mul_one, Nat.mod_eq_of_lt (by omega : num < den), hsmall,
    if_true]

namespace Magnitude

/-- A magnitude is determined by its units. -/
@[ext] theorem ext {first second : Magnitude} (hunits : first.units = second.units) :
    first = second := by
  cases first
  cases second
  cases hunits
  rfl

/-- Quotients of one value round to one magnitude, or are out of range together. -/
theorem round?_congr {num den num' den' : Nat} (hden : 0 < den) (hden' : 0 < den')
    (hvalue : num * den' = num' * den) : round? num den = round? num' den' := by
  unfold round?
  simp only [roundUnits_congr hden hden' hvalue]

/-- A magnitude rounds to itself, whatever quotient writes it. -/
theorem round?_units_mul (size : Magnitude) (factor : Nat) (hfactor : 0 < factor) :
    round? (size.units * factor) factor = some size := by
  rw [round?_congr hfactor Nat.one_pos (Nat.mul_one (size.units * factor))]
  unfold round?
  have hunits : roundUnits size.units 1 = size.units :=
    roundUnits_of_spacing_dvd size.units size.onGrid
  rw [dif_pos (by rw [hunits]; exact size.inRange)]
  exact congrArg some (Magnitude.ext hunits)

/-- A quotient that reaches the ceiling is out of range. -/
theorem round?_eq_none {num den : Nat} (hbig : unitsCeiling ≤ num / den) :
    round? num den = none := by
  unfold round?
  rw [dif_neg]
  exact Nat.not_lt.mpr (two_pow_le_roundUnits (by decide) hbig)

/-- What is less than half a unit is the magnitude nothing. -/
theorem round?_eq_zero {num den : Nat} (hsmall : 2 * num < den) :
    round? num den = some zero := by
  unfold round?
  have hunits := roundUnits_eq_zero hsmall
  rw [dif_pos (by rw [hunits]; exact unitsCeiling_pos)]
  exact congrArg some (Magnitude.ext hunits)

end Magnitude

end SkillTiers
