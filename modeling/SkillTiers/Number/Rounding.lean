/-
# Rounding to double precision

A magnitude of double precision is a whole number of units of 2^-1074, the
smallest positive step of the format. Up to 2^53 units every whole number is a
magnitude; from there on the gap between neighbours doubles with every binary
place, so that a magnitude never carries more than 53 significant bits.

`roundUnits` takes an exact quotient to the nearest magnitude, a tie going to
the neighbour whose significand is even. `spacing_dvd_roundUnits` says that the
result lies on the grid, so it is a magnitude whenever it is small enough.
-/

namespace SkillTiers

-- A power is the one of the core library, whatever else is imported.
attribute [local instance (high)] instPowNat

/-- The gap between neighbouring magnitudes at `units`: one unit below 2^53,
twice as much with every further binary place. -/
def spacing (units : Nat) : Nat :=
  2 ^ (units.log2 - 52)

/-- How many bits the number of units of a magnitude has at most. -/
def rangeBits : Nat :=
  2098

/-- How many binary places a unit stands below one. -/
def unitPlaces : Nat :=
  1074

/-- The first number of units that no magnitude reaches, the value 2^1024. -/
def unitsCeiling : Nat :=
  2 ^ rangeBits

/-- The number of units in the value one. In products it stands on the left, where
unfolding stops at the other factor; on the right it would be counted down. -/
def unitsPerOne : Nat :=
  2 ^ unitPlaces

/-- The whole number nearest to `num / den`; half way, the even one. -/
def nearestQuotient (num den : Nat) : Nat :=
  let below := num / den
  let twice := 2 * (num % den)
  if twice < den then below
  else if den < twice then below + 1
  else if below % 2 = 0 then below
  else below + 1

/-- The magnitude nearest to `num / den` units; half way, the one with the even
significand. -/
def roundUnits (num den : Nat) : Nat :=
  let step := spacing (num / den)
  nearestQuotient num (den * step) * step

theorem unitsCeiling_pos : 0 < unitsCeiling :=
  Nat.two_pow_pos rangeBits

theorem spacing_pos (units : Nat) : 0 < spacing units :=
  Nat.pow_pos (by decide)

theorem nearestQuotient_le (num den : Nat) :
    nearestQuotient num den ≤ num / den + 1 := by
  unfold nearestQuotient
  dsimp only
  split
  · omega
  · split
    · omega
    · split <;> omega

theorem le_nearestQuotient (num den : Nat) :
    num / den ≤ nearestQuotient num den := by
  unfold nearestQuotient
  dsimp only
  split
  · omega
  · split
    · omega
    · split <;> omega

/-- Counted in steps of its own grid, a magnitude is below 2^53. -/
theorem div_spacing_lt (units : Nat) : units / spacing units < 2 ^ (53 : Nat) := by
  have hlt : units < 2 ^ (units.log2 + 1) := Nat.lt_log2_self
  refine (Nat.div_lt_iff_lt_mul (spacing_pos units)).mpr ?_
  unfold spacing
  rw [← Nat.pow_add]
  exact Nat.lt_of_lt_of_le hlt (Nat.pow_le_pow_right (by decide) (by omega))

/-- At most 2^53 steps of one grid lie on the grid of their own size. -/
theorem spacing_dvd_of_le (steps exponent : Nat) (h : steps ≤ 2 ^ (53 : Nat)) :
    spacing (steps * 2 ^ exponent) ∣ steps * 2 ^ exponent := by
  rcases Nat.lt_or_eq_of_le h with hlt | heq
  · have hsmall : steps * 2 ^ exponent < 2 ^ (53 + exponent) := by
      rw [Nat.pow_add]
      exact Nat.mul_lt_mul_of_pos_right hlt (Nat.pow_pos (by decide))
    refine Nat.dvd_trans (Nat.pow_dvd_pow 2 ?_) (Nat.dvd_mul_left (2 ^ exponent) steps)
    by_cases hzero : steps * 2 ^ exponent = 0
    · rw [hzero]
      simp
    · have := (Nat.log2_lt hzero).mpr hsmall
      omega
  · subst heq
    unfold spacing
    rw [← Nat.pow_add, Nat.log2_two_pow]
    exact Nat.pow_dvd_pow 2 (by omega)

/-- The rounded quotient lies on the grid of its own size. -/
theorem spacing_dvd_roundUnits (num den : Nat) :
    spacing (roundUnits num den) ∣ roundUnits num den := by
  unfold roundUnits
  dsimp only
  apply spacing_dvd_of_le
  have hsteps := nearestQuotient_le num (den * spacing (num / den))
  rw [← Nat.div_div_eq_div_mul] at hsteps
  have := div_spacing_lt (num / den)
  omega

end SkillTiers
