/-
# Texts of doubles spell their sizes

`Numeral.Spells` lists the forms that a decimal is written in: with a point, with
a point and an exponent, or with an exponent only. `Layout.plain_spells` says that
the text of a decimal has one of these forms and spells a decimal of the same
size, so dropping zeros and moving the point lose nothing.
-/

import SkillTiers.Proofs.Number.Numeral
import SkillTiers.Proofs.Number.Significant

namespace SkillTiers

namespace Numeral

/-- A text and the decimal that it spells. -/
inductive Spells : List Char → Decimal → Prop where
  /-- Digits on both sides of a point. -/
  | pointed {whole fraction : List Char} (hwhole : WholeDigits whole)
      (hfraction : AllDigits fraction) (hnonempty : fraction ≠ []) :
      Spells (whole ++ '.' :: fraction) (assemble whole fraction 0)
  /-- Digits on both sides of a point and an exponent. -/
  | scaled {whole fraction : List Char} (exponent : Int) (hwhole : WholeDigits whole)
      (hfraction : AllDigits fraction) (hnonempty : fraction ≠ []) :
      Spells (whole ++ '.' :: (fraction ++ 'e' :: Layout.exponentText exponent))
        (assemble whole fraction exponent)
  /-- Digits and an exponent. -/
  | scaledWhole {whole : List Char} (exponent : Int) (hwhole : WholeDigits whole) :
      Spells (whole ++ 'e' :: Layout.exponentText exponent) (assemble whole [] exponent)

/-- The size of digits around a point. -/
theorem assemble_size (whole fraction : List Char) (exponent : Int) :
    (assemble whole fraction exponent).size =
      digitsValue (whole ++ fraction) * 10 ^ (exponent - fraction.length) :=
  rfl

/-- The point moves one place for each zero that stands at the end. -/
theorem scale_zeros (value count : Nat) (places : Int) :
    ((value * 10 ^ count : Nat) : ℚ) * 10 ^ places = value * 10 ^ (places + count) := by
  rw [zpow_add₀ (by norm_num), zpow_natCast]
  push_cast
  ring

end Numeral

namespace Layout

open Numeral

/-- The size of a decimal, told by its digits without the zeros at their end. -/
private theorem size_eq_stripped (decimal : Decimal) :
    decimal.size = digitsValue (stripZeros decimal.digits) *
      10 ^ (decimal.point - (stripZeros decimal.digits).length) := by
  obtain ⟨count, hstrip⟩ := stripZeros_append decimal.digits
  have hvalue : decimal.coefficient =
      digitsValue (stripZeros decimal.digits) * 10 ^ count := by
    have h := digitsValue_toDigits decimal.coefficient
    change digitsValue decimal.digits = _ at h
    rw [hstrip, digitsValue_append, digitsValue_replicate_zero, List.length_replicate,
      Nat.add_zero] at h
    exact h.symm
  have hlength : decimal.digits.length = (stripZeros decimal.digits).length + count := by
    have := congrArg List.length hstrip
    rwa [List.length_append, List.length_replicate] at this
  unfold Decimal.size
  rw [hvalue, scale_zeros]
  congr 2
  unfold Decimal.point
  omega

/-- The digits of a decimal other than zero, without the zeros at their end, begin with a
digit other than zero. -/
private theorem stripped_digits {decimal : Decimal} (hnonzero : decimal.coefficient ≠ 0) :
    ∃ digit others, stripZeros decimal.digits = digit :: others ∧ digit ≠ '0' ∧
      AllDigits (digit :: others) := by
  obtain ⟨count, hstrip⟩ := stripZeros_append decimal.digits
  have hall : AllDigits (stripZeros decimal.digits) := by
    intro c hmem
    have hdigit : c ∈ decimal.digits := by
      rw [hstrip]
      exact List.mem_append_left _ hmem
    exact allDigits_toDigits decimal.coefficient c hdigit
  cases hfirst : decimal.digits with
  | nil => exact absurd hfirst Nat.toDigits_ne_nil
  | cons digit rest =>
      have hlead : digit ≠ '0' := by
        rintro rfl
        exact hnonzero (toDigits_lead hfirst)
      obtain ⟨others, hothers⟩ := stripZeros_lead hlead
      rw [hfirst, hothers] at hall
      exact ⟨digit, others, hothers, hlead, hall⟩

variable {digit : Char} {others : List Char}

/-- Some of the digits, from the first one on, may stand before the point, with more digits
behind them. -/
private theorem wholeDigits_take (hall : AllDigits (digit :: others)) (hlead : digit ≠ '0')
    {rest : List Char} (hrest : AllDigits rest) {count : Nat} (hcount : 0 < count) :
    WholeDigits ((digit :: others).take count ++ rest) := by
  cases count with
  | zero => exact absurd hcount (Nat.lt_irrefl 0)
  | succ count =>
      rw [List.take_succ_cons, List.cons_append]
      refine .of_lead ?_ hlead
      rw [← List.cons_append, ← List.take_succ_cons]
      exact AllDigits.append (fun c hmem => hall c (List.mem_of_mem_take hmem)) hrest

/-- A positional text spells its digits with the point where it says. -/
private theorem positional_spells (point : Int) (hall : AllDigits (digit :: others))
    (hlead : digit ≠ '0') :
    ∃ spelled, Spells (Layout.plain.positional (digit :: others) point) spelled ∧
      spelled.size =
        digitsValue (digit :: others) * 10 ^ (point - (digit :: others).length) := by
  have hnonempty : digit :: others ≠ [] := List.cons_ne_nil digit others
  have hwhole {rest : List Char} := @wholeDigits_take digit others hall hlead rest
  generalize digit :: others = digits at hall hnonempty hwhole ⊢
  unfold positional
  split
  · -- The digits start behind the point, after zeros.
    rename_i hpoint
    refine ⟨_, .pointed wholeDigits_zero (allDigits_replicate_zero _ |>.append hall)
      (List.append_ne_nil_of_right_ne_nil _ hnonempty), ?_⟩
    rw [assemble_size, digitsValue_append, digitsValue_append, digitsValue_replicate_zero]
    simp only [List.length_append, List.length_replicate]
    have hzero : digitsValue ['0'] = 0 := rfl
    rw [hzero, Nat.zero_mul, Nat.zero_add, Nat.zero_mul, Nat.zero_add]
    congr 2
    omega
  · split
    · -- The digits end before the point, and zeros fill the gap.
      rename_i hpoint hlength
      have hfilled : WholeDigits
          (digits ++ List.replicate (point.toNat - digits.length) '0') := by
        have h := hwhole (allDigits_replicate_zero (point.toNat - digits.length))
          (List.length_pos_iff.mpr hnonempty)
        rwa [List.take_length] at h
      have htail : ['0'] ≠ [] := List.cons_ne_nil _ _
      refine ⟨_, .pointed hfilled (allDigits_replicate_zero 1) htail, ?_⟩
      have hone : digitsValue ['0'] = 0 := rfl
      rw [assemble_size, digitsValue_append, digitsValue_append, digitsValue_replicate_zero,
        hone, Nat.add_zero, Nat.add_zero, Nat.mul_assoc, ← Nat.pow_add, scale_zeros]
      congr 2
      simp only [List.length_replicate, List.length_cons, List.length_nil]
      omega
    · -- The point stands between two of the digits.
      rename_i hpoint hlength
      have hpositive : 0 < point.toNat := by omega
      have hrest : digits.drop point.toNat ≠ [] := by
        rw [Ne, List.drop_eq_nil_iff]
        omega
      have hfront : WholeDigits (digits.take point.toNat) := by
        have hnone : AllDigits [] := fun c hmem => absurd hmem List.not_mem_nil
        have h := hwhole hnone hpositive
        rwa [List.append_nil] at h
      refine ⟨_, .pointed hfront (fun c hmem => hall c (List.mem_of_mem_drop hmem)) hrest, ?_⟩
      rw [assemble_size, List.take_append_drop, List.length_drop]
      congr 2
      omega

/-- A text with an exponent spells its digits with the point behind the first. -/
private theorem withExponent_spells (exponent : Int) (hall : AllDigits (digit :: others))
    (hlead : digit ≠ '0') :
    ∃ spelled, Spells (withExponent (digit :: others) exponent) spelled ∧
      spelled.size =
        digitsValue (digit :: others) * 10 ^ (exponent + 1 - (digit :: others).length) := by
  have hdigit : AllDigits [digit] := fun c hmem => hall c (by
    rw [List.mem_singleton.mp hmem]
    exact List.mem_cons_self)
  have hwhole : WholeDigits [digit] := .of_lead hdigit hlead
  cases others with
  | nil =>
      refine ⟨_, .scaledWhole exponent hwhole, ?_⟩
      rw [assemble_size, List.append_nil]
      congr 2
      simp only [List.length_nil, List.length_cons]
      omega
  | cons next rest =>
      refine ⟨_, .scaled exponent hwhole (fun c hmem => hall c (List.mem_cons_of_mem _ hmem))
        (List.cons_ne_nil next rest), ?_⟩
      rw [assemble_size]
      congr 2
      simp only [List.length_cons]
      omega

/-- The text of a decimal spells a decimal of its size. -/
theorem plain_spells (decimal : Decimal) :
    ∃ spelled, Spells (Layout.plain.write decimal) spelled ∧ spelled.size = decimal.size := by
  unfold write
  split
  · rename_i hzero
    have htail : ['0'] ≠ [] := List.cons_ne_nil _ _
    refine ⟨_, .pointed wholeDigits_zero (allDigits_replicate_zero 1) htail, ?_⟩
    have hvalue : digitsValue (['0'] ++ ['0']) = 0 := rfl
    rw [assemble_size, hvalue]
    unfold Decimal.size
    rw [hzero]
    simp
  · rename_i hnonzero
    rw [size_eq_stripped decimal]
    obtain ⟨digit, others, hdigits, hlead, hall⟩ := stripped_digits hnonzero
    rw [hdigits]
    dsimp only
    split
    · exact positional_spells decimal.point hall hlead
    · have h := withExponent_spells (decimal.point - 1) hall hlead
      rwa [Int.sub_add_cancel] at h

end Layout

end SkillTiers
