/-
# Rounding between magnitudes

Rounding does not pass a magnitude: a quotient that reaches one reaches it after rounding
too (`units_le_roundUnits`), and one that does not go beyond it does not go beyond it then
(`roundUnits_le_units`). So a quotient that is away from a whole number stays on its side of
it, as long as magnitudes lie between the two. For a denominator up to 2^p and a whole number
with no more than 53 - p binary places they do: the quotient is at least one denominator-th
away, and 2^-p still is a step of the grid there (`roundUnits_compare`).
-/

import SkillTiers.Proofs.Number.Rounding

namespace SkillTiers

-- A power is the one of the core library, whatever else is imported.
attribute [local instance (high)] instPowNat

/-- The grid of a size is part of the grid of every lesser size. -/
theorem spacing_dvd_spacing {units greater : Nat} (hle : units ≤ greater) :
    spacing units ∣ spacing greater := by
  have hlog : units.log2 ≤ greater.log2 := by
    by_cases hzero : units = 0
    · rw [hzero, Nat.log2_zero]
      exact Nat.zero_le _
    · exact (Nat.le_log2 (by omega)).mpr (le_trans (Nat.log2_self_le hzero) hle)
  exact Nat.pow_dvd_pow 2 (by omega)

/-- Where the steps are wider at the greater size, a power of two lies between. -/
theorem two_pow_between {units greater : Nat} (hwider : spacing units < spacing greater) :
    52 ≤ greater.log2 ∧ units < 2 ^ greater.log2 := by
  have hlog : units.log2 - 52 < greater.log2 - 52 := by
    apply Nat.lt_of_not_le
    intro hle
    exact absurd (Nat.pow_le_pow_right (by decide) hle) (Nat.not_le.mpr hwider)
  have hunits : units < 2 ^ (units.log2 + 1) := Nat.lt_log2_self
  refine ⟨by omega, lt_of_lt_of_le hunits ?_⟩
  exact Nat.pow_le_pow_right (by decide) (by omega)

/-- A quotient that reaches a magnitude reaches it after rounding too. -/
theorem units_le_roundUnits {num den units : Nat} (hden : 0 < den)
    (hgrid : spacing units ∣ units) (hle : units * den ≤ num) : units ≤ roundUnits num den := by
  have hquotient : units ≤ num / den := (Nat.le_div_iff_mul_le hden).mpr hle
  rcases Nat.lt_or_ge (spacing units) (spacing (num / den)) with hwider | hsame
  · obtain ⟨hplaces, hpower⟩ := two_pow_between hwider
    have hpos : num / den ≠ 0 := by
      intro hzero
      rw [hzero, Nat.log2_zero] at hplaces
      omega
    exact le_trans (Nat.le_of_lt hpower)
      (two_pow_le_roundUnits hplaces (Nat.log2_self_le hpos))
  · -- The steps are those of the magnitude, which is a whole number of them.
    have hspacing : spacing (num / den) = spacing units :=
      Nat.le_antisymm hsame
        (Nat.le_of_dvd (spacing_pos _) (spacing_dvd_spacing hquotient))
    obtain ⟨steps, hsteps⟩ := hgrid
    unfold roundUnits
    dsimp only
    rw [hspacing]
    have hcount : steps ≤ num / (den * spacing units) := by
      rw [Nat.le_div_iff_mul_le (Nat.mul_pos hden (spacing_pos _))]
      calc steps * (den * spacing units) = spacing units * steps * den := by ring
        _ = units * den := by rw [← hsteps]
        _ ≤ num := hle
    calc units = steps * spacing units := by rw [Nat.mul_comm, ← hsteps]
      _ ≤ nearestQuotient num (den * spacing units) * spacing units :=
        Nat.mul_le_mul_right _ (le_trans hcount (le_nearestQuotient _ _))

/-- A quotient up to a whole number is not rounded beyond it. -/
theorem nearestQuotient_le_of_le {num den bound : Nat} (hden : 0 < den)
    (hle : num ≤ bound * den) : nearestQuotient num den ≤ bound := by
  have hquotient : num / den ≤ bound := Nat.div_le_of_le_mul (by rwa [Nat.mul_comm])
  rcases Nat.lt_or_eq_of_le hquotient with hless | hsame
  · have hnear := nearestQuotient_le num den
    omega
  · have hwhole := Nat.div_add_mod num den
    rw [hsame, Nat.mul_comm] at hwhole
    have hrest : num % den = 0 := by omega
    unfold nearestQuotient
    simp only [hrest, Nat.mul_zero, hden, if_true]
    exact hquotient

/-- A quotient that does not go beyond a magnitude does not go beyond it after rounding. -/
theorem roundUnits_le_units {num den units : Nat} (hden : 0 < den)
    (hgrid : spacing units ∣ units) (hle : num ≤ units * den) : roundUnits num den ≤ units := by
  have hquotient : num / den ≤ units := Nat.div_le_of_le_mul (by rwa [Nat.mul_comm])
  obtain ⟨steps, hsteps⟩ := Nat.dvd_trans (spacing_dvd_spacing hquotient) hgrid
  unfold roundUnits
  dsimp only
  have hcount : nearestQuotient num (den * spacing (num / den)) ≤ steps := by
    apply nearestQuotient_le_of_le (Nat.mul_pos hden (spacing_pos _))
    calc num ≤ units * den := hle
      _ = spacing (num / den) * steps * den := by rw [← hsteps]
      _ = steps * (den * spacing (num / den)) := by ring
  calc nearestQuotient num (den * spacing (num / den)) * spacing (num / den)
      ≤ steps * spacing (num / den) := Nat.mul_le_mul_right _ hcount
    _ = units := by rw [Nat.mul_comm, ← hsteps]

/-! ### Whole numbers -/

/-- The number of units at a binary place below one. -/
def unitsAt (place : Nat) : Nat :=
  2 ^ (unitPlaces - place)

theorem unitsAt_pos (place : Nat) : 0 < unitsAt place :=
  Nat.two_pow_pos _

theorem unitsPerOne_pos : 0 < unitsPerOne :=
  Nat.two_pow_pos unitPlaces

theorem unitsPerOne_eq {place : Nat} (hplace : place ≤ unitPlaces) :
    unitsPerOne = 2 ^ place * unitsAt place := by
  unfold unitsPerOne unitsAt
  rw [← Nat.pow_add, Nat.add_sub_cancel' hplace]

theorem unitsPerOne_mul {place : Nat} (hplace : place ≤ unitPlaces) (whole : Nat) :
    unitsPerOne * whole = whole * 2 ^ place * unitsAt place := by
  rw [unitsPerOne_eq hplace]
  ring

/-- Up to 2^53 steps at one binary place are a magnitude. -/
theorem spacing_dvd_unitsAt {steps : Nat} (place : Nat) (hsteps : steps ≤ 2 ^ (53 : Nat)) :
    spacing (steps * unitsAt place) ∣ steps * unitsAt place :=
  spacing_dvd_of_le steps _ hsteps

section Whole

variable {num den whole place : Nat} (hplace : place ≤ unitPlaces) (hden : 0 < den)
  (hwhole : whole * 2 ^ place < 2 ^ (53 : Nat))

include hplace hden hwhole

/-- A whole number with few other binary places is not rounded. -/
theorem roundUnits_whole : roundUnits (unitsPerOne * (whole * den)) den = unitsPerOne * whole := by
  have hgrid : spacing (unitsPerOne * whole) ∣ unitsPerOne * whole := by
    rw [unitsPerOne_mul hplace]
    exact spacing_dvd_unitsAt place (Nat.le_of_lt hwhole)
  rw [← Nat.mul_assoc]
  exact Nat.le_antisymm (roundUnits_le_units hden hgrid le_rfl)
    (units_le_roundUnits hden hgrid le_rfl)

variable (hbound : den ≤ 2 ^ place)

include hbound

/-- What is above the whole number is above it by a step of the grid. -/
theorem whole_lt_roundUnits (hmore : whole * den < num) :
    unitsPerOne * whole < roundUnits (unitsPerOne * num) den := by
  have hmargin : den * unitsAt place ≤ unitsPerOne := by
    rw [unitsPerOne_eq hplace]
    exact Nat.mul_le_mul_right _ hbound
  have hround : (whole * 2 ^ place + 1) * unitsAt place ≤ roundUnits (unitsPerOne * num) den := by
    apply units_le_roundUnits hden (spacing_dvd_unitsAt place hwhole)
    calc (whole * 2 ^ place + 1) * unitsAt place * den
        = unitsPerOne * whole * den + den * unitsAt place := by
          rw [unitsPerOne_mul hplace]
          ring
      _ ≤ unitsPerOne * whole * den + unitsPerOne := Nat.add_le_add_left hmargin _
      _ = unitsPerOne * (whole * den + 1) := by ring
      _ ≤ unitsPerOne * num := Nat.mul_le_mul_left _ hmore
  have hstep := unitsAt_pos place
  rw [Nat.add_mul, Nat.one_mul, ← unitsPerOne_mul hplace] at hround
  omega

/-- What is below the whole number is below it by a step of the grid. -/
theorem roundUnits_lt_whole (hless : num < whole * den) :
    roundUnits (unitsPerOne * num) den < unitsPerOne * whole := by
  have hmargin : den * unitsAt place ≤ unitsPerOne := by
    rw [unitsPerOne_eq hplace]
    exact Nat.mul_le_mul_right _ hbound
  have hpos : 0 < whole * 2 ^ place :=
    Nat.mul_pos (Nat.pos_of_mul_pos_right (Nat.lt_of_le_of_lt (Nat.zero_le _) hless))
      (Nat.two_pow_pos place)
  -- One step before the whole number stands the magnitude that is not passed.
  obtain ⟨steps, hsteps⟩ := Nat.exists_eq_add_of_le hpos
  have hexact : unitsPerOne * whole = steps * unitsAt place + unitsAt place := by
    rw [unitsPerOne_mul hplace, hsteps]
    ring
  have hround : roundUnits (unitsPerOne * num) den ≤ steps * unitsAt place := by
    apply roundUnits_le_units hden (spacing_dvd_unitsAt place (by omega))
    have hnext : unitsPerOne * num + unitsPerOne ≤
        steps * unitsAt place * den + den * unitsAt place :=
      calc unitsPerOne * num + unitsPerOne
          = unitsPerOne * (num + 1) := by ring
        _ ≤ unitsPerOne * (whole * den) := Nat.mul_le_mul_left _ hless
        _ = (steps * unitsAt place + unitsAt place) * den := by rw [← Nat.mul_assoc, hexact]
        _ = steps * unitsAt place * den + den * unitsAt place := by ring
    omega
  have hstep := unitsAt_pos place
  omega

/-- A quotient whose denominator has few binary places stays on its side of a whole number
with few others. -/
theorem roundUnits_compare :
    (roundUnits (unitsPerOne * num) den < unitsPerOne * whole ↔ num < whole * den) ∧
      (roundUnits (unitsPerOne * num) den = unitsPerOne * whole ↔ num = whole * den) := by
  rcases Nat.lt_trichotomy num (whole * den) with hless | rfl | hmore
  · have hround := roundUnits_lt_whole hplace hden hwhole hbound hless
    exact ⟨iff_of_true hround hless, iff_of_false (Nat.ne_of_lt hround) (Nat.ne_of_lt hless)⟩
  · have hround := roundUnits_whole hplace hden hwhole
    exact ⟨iff_of_false (Nat.not_lt.mpr (Nat.le_of_eq hround.symm)) (Nat.lt_irrefl _),
      iff_of_true hround rfl⟩
  · have hround := whole_lt_roundUnits hplace hden hwhole hbound hmore
    exact ⟨iff_of_false (Nat.not_lt_of_gt hround) (Nat.not_lt_of_gt hmore),
      iff_of_false (Nat.ne_of_gt hround) (Nat.ne_of_gt hmore)⟩

end Whole

end SkillTiers
