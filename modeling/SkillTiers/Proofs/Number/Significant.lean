/-
# The size of a decimal

A decimal has an exact size, and the double that it reads to depends on that size
alone (`Decimal.toDouble_congr`): the bounds at which `Decimal.toDouble` answers
without working out the power of ten agree with rounding. The shortest digits of a
magnitude are chosen so that they read back, and `Magnitude.shortest_toDouble`
says that they do.
-/

import SkillTiers.Number.Significant
import SkillTiers.Proofs.Number.Rounding
import Mathlib.Tactic.FieldSimp
import Mathlib.Tactic.Linarith
import Mathlib.Data.Rat.Cast.Order

namespace SkillTiers

namespace Decimal

/-- The exact size of a decimal. -/
def size (decimal : Decimal) : ℚ :=
  decimal.coefficient * 10 ^ decimal.exponent

/-- A decimal reads to the quotient of these two numbers of units. -/
private theorem size_mul_den (decimal : Decimal) :
    decimal.size * (10 ^ (-decimal.exponent).toNat : Nat) =
      (10 ^ decimal.exponent.toNat * decimal.coefficient : Nat) := by
  obtain ⟨coefficient, exponent⟩ := decimal
  unfold size
  cases exponent with
  | ofNat places =>
      simp [mul_comm]
  | negSucc places =>
      have hpower : (10 : ℚ) ^ Int.negSucc places * 10 ^ (places + 1) = 1 := by
        rw [zpow_negSucc]
        exact inv_mul_cancel₀ (by positivity)
      simp only [Int.neg_negSucc, Int.toNat_natCast, Int.toNat_negSucc, Nat.pow_zero,
        Nat.one_mul, Nat.cast_pow, Nat.cast_ofNat, mul_assoc]
      rw [hpower, mul_one]

/-- Decimals of one size have one nearest magnitude. -/
theorem magnitude?_congr {first second : Decimal} (hsize : first.size = second.size) :
    first.magnitude? = second.magnitude? := by
  unfold magnitude?
  apply Magnitude.round?_congr (Nat.pow_pos (by decide)) (Nat.pow_pos (by decide))
  have hfirst := size_mul_den first
  have hsecond := size_mul_den second
  rw [hsize] at hfirst
  have hcross :
      10 ^ first.exponent.toNat * first.coefficient * 10 ^ (-second.exponent).toNat =
        10 ^ second.exponent.toNat * second.coefficient * 10 ^ (-first.exponent).toNat := by
    have hcast : ((10 ^ first.exponent.toNat * first.coefficient : Nat) : ℚ) *
          (10 ^ (-second.exponent).toNat : Nat) =
        ((10 ^ second.exponent.toNat * second.coefficient : Nat) : ℚ) *
          (10 ^ (-first.exponent).toNat : Nat) := by
      rw [← hfirst, ← hsecond]
      ring
    exact_mod_cast hcast
  rw [Nat.mul_assoc, hcross, ← Nat.mul_assoc]

/-- A nonzero coefficient with its digits counted. -/
private theorem le_coefficient (decimal : Decimal) (hnonzero : decimal.coefficient ≠ 0) :
    10 ^ (decimal.digits.length - 1) ≤ decimal.coefficient := by
  by_cases hone : decimal.digits.length - 1 = 0
  · rw [hone]
    omega
  · apply Nat.le_of_not_lt
    intro hless
    have hlength := (Nat.length_toDigits_le_iff (by decide) (by omega)).mpr hless
    unfold digits at hone hlength
    omega

private theorem coefficient_lt (decimal : Decimal) :
    decimal.coefficient < 10 ^ decimal.digits.length :=
  (Nat.length_toDigits_le_iff (by decide) Nat.length_toDigits_pos).mp le_rfl

/-- A decimal with a digit above the place of 10^309 is out of range. -/
theorem magnitude?_eq_none {decimal : Decimal} (hnonzero : decimal.coefficient ≠ 0)
    (hpoint : 310 < decimal.point) : decimal.magnitude? = none := by
  apply Magnitude.round?_eq_none
  rw [Nat.le_div_iff_mul_le (Nat.pow_pos (by decide))]
  have hplaces : 310 + (-decimal.exponent).toNat ≤
      decimal.exponent.toNat + (decimal.digits.length - 1) := by
    unfold point at hpoint
    omega
  have hceiling : unitsCeiling ≤ unitsPerOne * 10 ^ 310 := by decide +kernel
  calc unitsCeiling * 10 ^ (-decimal.exponent).toNat
      ≤ unitsPerOne * 10 ^ 310 * 10 ^ (-decimal.exponent).toNat :=
        Nat.mul_le_mul_right _ hceiling
    _ = unitsPerOne * 10 ^ (310 + (-decimal.exponent).toNat) := by
        rw [Nat.pow_add, Nat.mul_assoc]
    _ ≤ unitsPerOne * 10 ^ (decimal.exponent.toNat + (decimal.digits.length - 1)) :=
        Nat.mul_le_mul_left _ (Nat.pow_le_pow_right (by decide) hplaces)
    _ ≤ unitsPerOne * (10 ^ decimal.exponent.toNat * decimal.coefficient) := by
        rw [Nat.pow_add]
        exact Nat.mul_le_mul_left _ (Nat.mul_le_mul_left _ (le_coefficient decimal hnonzero))

/-- A decimal whose digits all stand below a place under half a unit. -/
private theorem magnitude?_eq_zero_of_places {decimal : Decimal} {places : Nat}
    (hunits : 2 * unitsPerOne ≤ 10 ^ places) (hpoint : decimal.point + places ≤ 0) :
    decimal.magnitude? = some .zero := by
  apply Magnitude.round?_eq_zero
  have hplaces : decimal.digits.length + places ≤ (-decimal.exponent).toNat := by
    unfold point at hpoint
    omega
  have hlength : 0 < decimal.digits.length := Nat.length_toDigits_pos
  have hwhole : decimal.exponent.toNat = 0 := by
    unfold point at hpoint
    omega
  rw [hwhole, Nat.pow_zero, Nat.one_mul]
  calc 2 * (unitsPerOne * decimal.coefficient)
      = decimal.coefficient * (2 * unitsPerOne) := by
        rw [← Nat.mul_assoc, Nat.mul_comm]
    _ ≤ decimal.coefficient * 10 ^ places := Nat.mul_le_mul_left _ hunits
    _ < 10 ^ decimal.digits.length * 10 ^ places :=
        Nat.mul_lt_mul_of_pos_right (coefficient_lt decimal) (Nat.pow_pos (by decide))
    _ = 10 ^ (decimal.digits.length + places) := (Nat.pow_add _ _ _).symm
    _ ≤ 10 ^ (-decimal.exponent).toNat := Nat.pow_le_pow_right (by decide) hplaces

/-- A decimal below 10^-330 rounds to nothing. -/
theorem magnitude?_eq_zero {decimal : Decimal} (hpoint : decimal.point < -330) :
    decimal.magnitude? = some .zero :=
  magnitude?_eq_zero_of_places (by decide +kernel : 2 * unitsPerOne ≤ 10 ^ 330) (by omega)

/-- No digits at all round to nothing. -/
theorem magnitude?_of_coefficient_eq_zero {decimal : Decimal}
    (hzero : decimal.coefficient = 0) : decimal.magnitude? = some .zero := by
  apply Magnitude.round?_eq_zero
  rw [hzero]
  simp

/-- The double of a decimal is its nearest magnitude under the sign; the two bounds
on the way are no exception. -/
theorem toDouble_eq (negative : Bool) (decimal : Decimal) :
    decimal.toDouble negative =
      decimal.magnitude?.elim (.infinite negative) (.finite negative) := by
  unfold toDouble
  by_cases hzero : decimal.coefficient = 0
  · rw [if_pos hzero, magnitude?_of_coefficient_eq_zero hzero, Option.elim_some]
  · rw [if_neg hzero]
    by_cases hbig : 310 < decimal.point
    · rw [if_pos hbig, magnitude?_eq_none hzero hbig, Option.elim_none]
    · rw [if_neg hbig]
      by_cases hsmall : decimal.point < -330
      · rw [if_pos hsmall, magnitude?_eq_zero hsmall, Option.elim_some]
      · rw [if_neg hsmall]
        cases decimal.magnitude? with
        | none => rfl
        | some size => rfl

/-- Decimals of one size read to one double. -/
theorem toDouble_congr (negative : Bool) {first second : Decimal}
    (hsize : first.size = second.size) :
    first.toDouble negative = second.toDouble negative := by
  rw [toDouble_eq, toDouble_eq, magnitude?_congr hsize]

end Decimal

namespace Magnitude

/-- Units written with powers of five and ten round to the magnitude they count. -/
private theorem magnitude?_scaled (size : Magnitude) (places : Nat)
    (hone : unitsPerOne = 2 ^ places) :
    Decimal.magnitude? ⟨5 ^ places * size.units, -(places : Int)⟩ = some size := by
  have hwhole : (-(places : Int)).toNat = 0 := by omega
  have hplaces : (-(-(places : Int))).toNat = places := by omega
  have hpowers : unitsPerOne * 5 ^ places = 10 ^ places := by
    rw [hone, ← Nat.mul_pow]
  unfold Decimal.magnitude?
  rw [hwhole, hplaces, Nat.pow_zero, Nat.one_mul, ← Nat.mul_assoc, hpowers, Nat.mul_comm]
  exact round?_units_mul size _ (Nat.pow_pos (by decide))

/-- The exact decimal of a magnitude rounds to it. -/
theorem exactDecimal_magnitude? (size : Magnitude) :
    size.exactDecimal.magnitude? = some size :=
  magnitude?_scaled size unitPlaces rfl

/-- The shortest digits of a magnitude round to it. -/
theorem shortest_magnitude? (size : Magnitude) : size.shortest.magnitude? = some size := by
  unfold shortest
  cases hfound : (List.range' 1 17).findSome? size.withDigitCount? with
  | none => exact exactDecimal_magnitude? size
  | some decimal =>
      obtain ⟨count, -, hcount⟩ := List.exists_of_findSome?_eq_some hfound
      have hreads : size.readsBack decimal = true := List.find?_some hcount
      exact of_decide_eq_true hreads

/-- The shortest digits of a magnitude read back under either sign. -/
theorem shortest_toDouble (negative : Bool) (size : Magnitude) :
    size.shortest.toDouble negative = .finite negative size := by
  rw [Decimal.toDouble_eq, shortest_magnitude? size, Option.elim_some]

end Magnitude

end SkillTiers
