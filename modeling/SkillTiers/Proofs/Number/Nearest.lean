/-
# The nearest magnitude

A rounded quotient is off by half a step of its grid at most, so no magnitude is nearer to
the quotient (`two_mul_le_of_roundUnits_lt`, `le_two_mul_of_lt_roundUnits`). Hence rounding
keeps the order of quotients (`roundUnits_le_roundUnits`).

A quotient that is rounded before it is multiplied is off by half a step times the factor, and
the steps of the product are wider than that by half at least. So the product is rounded to
the same magnitude as without the first rounding, or to the next one (`touches_of_twice`).
-/

import SkillTiers.Proofs.Number.Bracket
import Mathlib.Tactic.Linarith

namespace SkillTiers

-- A power is the one of the core library, whatever else is imported.
attribute [local instance (high)] instPowNat

/-- The nearest whole number is off by one half at most. -/
theorem nearestQuotient_off (num : Nat) {den : Nat} (hden : 0 < den) :
    2 * num ≤ (2 * nearestQuotient num den + 1) * den ∧
      2 * nearestQuotient num den * den ≤ 2 * num + den := by
  have hsplit : den * (num / den) + num % den = num := Nat.div_add_mod num den
  have hrest : num % den < den := Nat.mod_lt num hden
  have hbelow : (2 * (num / den) + 1) * den = 2 * (den * (num / den)) + den := by ring
  have habove : (2 * (num / den + 1) + 1) * den = 2 * (den * (num / den)) + 3 * den := by ring
  have hbelow' : 2 * (num / den) * den = 2 * (den * (num / den)) := by ring
  have habove' : 2 * (num / den + 1) * den = 2 * (den * (num / den)) + 2 * den := by ring
  unfold nearestQuotient
  dsimp only
  split
  · omega
  · split
    · omega
    · split <;> omega

/-- Of two numbers of whole steps the greater is greater by a step. -/
theorem add_step_le {step first second : Nat} (hfirst : step ∣ first) (hsecond : step ∣ second)
    (hless : first < second) : first + step ≤ second := by
  have hstep := Nat.le_of_dvd (Nat.sub_pos_of_lt hless) (Nat.dvd_sub hsecond hfirst)
  omega

/-- The rounded quotient is a whole number of steps of the quotient. -/
theorem spacing_dvd_roundUnits_self (num den : Nat) :
    spacing (num / den) ∣ roundUnits num den :=
  Nat.dvd_mul_left _ _

/-- The rounded quotient is off by half a step at most. -/
theorem roundUnits_off (num : Nat) {den : Nat} (hden : 0 < den) :
    2 * num ≤ (2 * roundUnits num den + spacing (num / den)) * den ∧
      2 * roundUnits num den * den ≤ 2 * num + spacing (num / den) * den := by
  obtain ⟨habove, hbelow⟩ := nearestQuotient_off num (Nat.mul_pos hden (spacing_pos (num / den)))
  unfold roundUnits
  dsimp only
  constructor
  · calc 2 * num ≤ _ := habove
      _ = _ := by ring
  · calc _ = _ := by ring
      _ ≤ _ := hbelow
      _ = _ := by ring

section Nearest

variable {num den units : Nat} (hden : 0 < den) (hgrid : spacing units ∣ units)

include hden hgrid

/-- A magnitude above the rounded quotient is no nearer to the quotient. -/
theorem two_mul_le_of_roundUnits_lt (hless : roundUnits num den < units) :
    2 * num ≤ (roundUnits num den + units) * den := by
  have hbeyond : num / den < units := by
    by_contra hreached
    have hle : units * den ≤ num := (Nat.le_div_iff_mul_le hden).mp (Nat.not_lt.mp hreached)
    exact Nat.not_le.mpr hless (units_le_roundUnits hden hgrid hle)
  have hstep : roundUnits num den + spacing (num / den) ≤ units :=
    add_step_le (spacing_dvd_roundUnits_self num den)
      (Nat.dvd_trans (spacing_dvd_spacing (Nat.le_of_lt hbeyond)) hgrid) hless
  calc 2 * num ≤ (2 * roundUnits num den + spacing (num / den)) * den :=
      (roundUnits_off num hden).1
    _ ≤ (roundUnits num den + units) * den := Nat.mul_le_mul_right den (by omega)

/-- A magnitude that a quotient reaches is reached by the whole steps in it. -/
theorem units_le_steps (hle : units * den ≤ num) :
    units ≤ num / den / spacing (num / den) * spacing (num / den) := by
  have hquotient : units ≤ num / den := (Nat.le_div_iff_mul_le hden).mpr hle
  rcases Nat.lt_or_ge (spacing units) (spacing (num / den)) with hwider | hsame
  · -- The steps begin to be that wide at a power of two, which is a whole number of them.
    obtain ⟨hplaces, hpower⟩ := two_pow_between hwider
    have hpos : num / den ≠ 0 := by
      intro hzero
      rw [hzero, Nat.log2_zero] at hplaces
      omega
    have hwhole : 2 ^ (num / den).log2 = 2 ^ 52 * spacing (num / den) := by
      unfold spacing
      rw [← Nat.pow_add, Nat.add_sub_cancel' hplaces]
    have hsteps : 2 ^ 52 ≤ num / den / spacing (num / den) := by
      rw [Nat.le_div_iff_mul_le (spacing_pos _), ← hwhole]
      exact Nat.log2_self_le hpos
    calc units ≤ 2 ^ (num / den).log2 := Nat.le_of_lt hpower
      _ = 2 ^ 52 * spacing (num / den) := hwhole
      _ ≤ _ := Nat.mul_le_mul_right _ hsteps
  · obtain ⟨steps, hsteps⟩ : spacing (num / den) ∣ units := by
      rw [Nat.le_antisymm (Nat.le_of_dvd (spacing_pos _) (spacing_dvd_spacing hquotient)) hsame]
        at hgrid
      exact hgrid
    have hcount : steps ≤ num / den / spacing (num / den) := by
      rw [Nat.le_div_iff_mul_le (spacing_pos _), Nat.mul_comm, ← hsteps]
      exact hquotient
    calc units = steps * spacing (num / den) := by rw [Nat.mul_comm, ← hsteps]
      _ ≤ _ := Nat.mul_le_mul_right _ hcount

/-- A magnitude below the rounded quotient is no nearer to the quotient. -/
theorem le_two_mul_of_lt_roundUnits (hmore : units < roundUnits num den) :
    (roundUnits num den + units) * den ≤ 2 * num := by
  have hreached : units * den ≤ num := by
    by_contra hshort
    exact Nat.not_le.mpr hmore (roundUnits_le_units hden hgrid (Nat.le_of_not_le hshort))
  rcases Nat.lt_or_ge num (roundUnits num den * den) with hup | hdown
  · -- Rounded up, the quotient is a step above the whole steps in it.
    have hwhole : num / den / spacing (num / den) * spacing (num / den) < roundUnits num den := by
      apply Nat.lt_of_mul_lt_mul_right (a := den)
      refine Nat.lt_of_le_of_lt ?_ hup
      calc num / den / spacing (num / den) * spacing (num / den) * den
          ≤ num / den * den := Nat.mul_le_mul_right den (Nat.div_mul_le_self _ _)
        _ ≤ num := Nat.div_mul_le_self num den
    have hstep := add_step_le (Nat.dvd_mul_left _ _) (spacing_dvd_roundUnits_self num den) hwhole
    have hsteps := units_le_steps hden hgrid hreached
    have hoff := (roundUnits_off num hden).2
    have hsum : (roundUnits num den + units) * den + spacing (num / den) * den ≤
        2 * roundUnits num den * den := by
      rw [← Nat.add_mul]
      exact Nat.mul_le_mul_right den (by omega)
    omega
  · rw [Nat.add_mul]
    omega

end Nearest

/-- Rounding keeps the order of quotients. -/
theorem roundUnits_le_roundUnits {num den num' den' : Nat} (hden : 0 < den) (hden' : 0 < den')
    (hvalue : num * den' ≤ num' * den) : roundUnits num den ≤ roundUnits num' den' := by
  rw [← roundUnits_mul_right num den den' hden', ← roundUnits_mul_right num' den' den hden,
    Nat.mul_comm den' den]
  have hboth := Nat.mul_pos hden hden'
  by_contra hcrossed
  have hless := Nat.not_le.mp hcrossed
  have hfirst := le_two_mul_of_lt_roundUnits hboth (spacing_dvd_roundUnits _ _) hless
  have hsecond := two_mul_le_of_roundUnits_lt hboth (spacing_dvd_roundUnits _ _) hless
  rw [Nat.add_comm] at hsecond
  have hsame : num * den' = num' * den := by omega
  rw [hsame] at hless
  exact Nat.lt_irrefl _ hless

/-- Rounding keeps the order of quotients with one denominator. -/
theorem roundUnits_mono {num num' den : Nat} (hden : 0 < den) (hle : num ≤ num') :
    roundUnits num den ≤ roundUnits num' den :=
  roundUnits_le_roundUnits hden hden (Nat.mul_le_mul_right den hle)

/-! ### Rounding twice -/

/-- A quotient that is a magnitude may be rounded before it is multiplied. -/
theorem roundUnits_twice_of_magnitude {num den : Nat} (hden : 0 < den) (factor : Nat)
    {quotient : Magnitude} (hquotient : quotient.units * den = num) :
    roundUnits (roundUnits num den * factor) 1 = roundUnits (num * factor) den := by
  have hround : roundUnits num den = quotient.units := by
    rw [← hquotient, roundUnits_congr hden Nat.one_pos (Nat.mul_one _)]
    exact roundUnits_of_spacing_dvd quotient.units quotient.onGrid
  rw [hround, ← hquotient]
  apply roundUnits_congr Nat.one_pos hden
  rw [Nat.mul_one]
  exact Nat.mul_right_comm _ _ _

/-- No magnitude lies between the two: they are the same or next to one another. -/
def Magnitude.Touches (first second : Magnitude) : Prop :=
  ∀ other : Magnitude, ¬ (first.units < other.units ∧ other.units < second.units) ∧
    ¬ (second.units < other.units ∧ other.units < first.units)

section Twice

variable {num den factor : Nat} (hden : 0 < den) (hfactor : 0 < factor)
  (hplaces : 2 ^ (52 : Nat) ≤ num / den)

include hden hfactor hplaces

/-- Where the quotient has its 53 binary places, the product has steps as wide as those of
the quotient times the greatest power of two in the factor, whether the quotient is rounded
before or not. -/
theorem step_dvd_of_product {units : Nat} (hgrid : spacing units ∣ units)
    (hle : roundUnits (num * factor) den ≤ units ∨
      roundUnits (roundUnits num den * factor) 1 ≤ units) :
    2 ^ factor.log2 * spacing (num / den) ∣ units := by
  have hpos : num / den ≠ 0 := by
    have := Nat.two_pow_pos 52
    omega
  have hlog : 52 ≤ (num / den).log2 := (Nat.le_log2 hpos).mpr hplaces
  have hpower : 2 ^ factor.log2 ≤ factor := Nat.log2_self_le (Nat.ne_of_gt hfactor)
  have hlead : 2 ^ (num / den).log2 * den ≤ num :=
    (Nat.le_div_iff_mul_le hden).mp (Nat.log2_self_le hpos)
  -- The power of two that the exact product reaches is a magnitude, so both products reach it.
  have htop : 2 ^ ((num / den).log2 + factor.log2) ≤ units := by
    rw [Nat.pow_add]
    rcases hle with hle | hle
    · refine le_trans ?_ hle
      rw [← Nat.pow_add]
      apply two_pow_le_roundUnits (by omega)
      rw [Nat.le_div_iff_mul_le hden, Nat.pow_add]
      calc 2 ^ (num / den).log2 * 2 ^ factor.log2 * den
          = 2 ^ (num / den).log2 * den * 2 ^ factor.log2 := by ring
        _ ≤ num * factor := Nat.mul_le_mul hlead hpower
    · refine le_trans ?_ hle
      rw [← Nat.pow_add]
      apply two_pow_le_roundUnits (by omega)
      rw [Nat.div_one, Nat.pow_add]
      exact Nat.mul_le_mul (two_pow_le_roundUnits hlog (Nat.log2_self_le hpos)) hpower
  have hlogs : (num / den).log2 + factor.log2 ≤ units.log2 :=
    (Nat.le_log2 (by have := Nat.two_pow_pos ((num / den).log2 + factor.log2); omega)).mpr htop
  refine Nat.dvd_trans ?_ hgrid
  unfold spacing
  rw [← Nat.pow_add]
  exact Nat.pow_dvd_pow 2 (by omega)

/-- A quotient that is rounded before it is multiplied comes to the same magnitude as the
product itself, or to the next one. -/
theorem not_between_of_twice {units : Nat} (hgrid : spacing units ∣ units) :
    ¬ (roundUnits (num * factor) den < units ∧
        units < roundUnits (roundUnits num den * factor) 1) ∧
      ¬ (roundUnits (roundUnits num den * factor) 1 < units ∧
        units < roundUnits (num * factor) den) := by
  obtain ⟨habove, hbelow⟩ := roundUnits_off num hden
  have hproduct := @step_dvd_of_product num den factor hden hfactor hplaces
  have honce := hproduct (spacing_dvd_roundUnits (num * factor) den) (.inl le_rfl)
  have htwice := hproduct (spacing_dvd_roundUnits (roundUnits num den * factor) 1) (.inr le_rfl)
  -- Two such steps are wider than the first rounding can be off.
  have hwide : factor * spacing (num / den) < 2 * (2 ^ factor.log2 * spacing (num / den)) := by
    rw [← Nat.mul_assoc, ← Nat.pow_succ']
    exact Nat.mul_lt_mul_of_pos_right Nat.lt_log2_self (spacing_pos _)
  have hgap {first second third : Nat} (hfirst : 2 ^ factor.log2 * spacing (num / den) ∣ first)
      (hsecond : 2 ^ factor.log2 * spacing (num / den) ∣ second)
      (hthird : 2 ^ factor.log2 * spacing (num / den) ∣ third) (hless : first < second)
      (hless' : second < third) : first + factor * spacing (num / den) < third := by
    have hstep := add_step_le hfirst hsecond hless
    have hstep' := add_step_le hsecond hthird hless'
    omega
  constructor
  · rintro ⟨hless, hless'⟩
    have hmiddle := hproduct hgrid (.inl (Nat.le_of_lt hless))
    have hfar := hgap honce hmiddle htwice hless hless'
    have hnear := two_mul_le_of_roundUnits_lt hden hgrid hless
    have hnear' := le_two_mul_of_lt_roundUnits Nat.one_pos hgrid hless'
    have hclose : roundUnits (roundUnits num den * factor) 1 * den ≤
        (roundUnits (num * factor) den + factor * spacing (num / den)) * den := by
      have hscaled := Nat.mul_le_mul_right factor hbelow
      have hscaled' := Nat.mul_le_mul_right den hnear'
      linarith
    exact Nat.not_le.mpr hfar (Nat.le_of_mul_le_mul_right hclose hden)
  · rintro ⟨hless, hless'⟩
    have hmiddle := hproduct hgrid (.inr (Nat.le_of_lt hless))
    have hfar := hgap htwice hmiddle honce hless hless'
    have hnear := two_mul_le_of_roundUnits_lt Nat.one_pos hgrid hless
    have hnear' := le_two_mul_of_lt_roundUnits hden hgrid hless'
    have hclose : roundUnits (num * factor) den * den ≤
        (roundUnits (roundUnits num den * factor) 1 + factor * spacing (num / den)) * den := by
      have hscaled := Nat.mul_le_mul_right factor habove
      have hscaled' := Nat.mul_le_mul_right den hnear
      linarith
    exact Nat.not_le.mpr hfar (Nat.le_of_mul_le_mul_right hclose hden)

/-- So the two magnitudes are the same or next to one another. -/
theorem Magnitude.touches_of_twice {twice once : Magnitude}
    (htwice : twice.units = roundUnits (roundUnits num den * factor) 1)
    (honce : once.units = roundUnits (num * factor) den) : twice.Touches once := by
  intro other
  rw [htwice, honce]
  exact (not_between_of_twice hden hfactor hplaces other.onGrid).symm

end Twice

end SkillTiers
