/-
# Digits

The value of a list of digits, and what the digits of a number look like: they
are never none, they start with zero only for the number zero, and the zeros at
their end are a power of ten.
-/

import SkillTiers.Number.Layout
import SkillTiers.Number.Numeral
import Mathlib.Tactic.Ring
import Mathlib.Data.List.TakeWhile

namespace SkillTiers

namespace Numeral

/-- Characters that are all digits. -/
def AllDigits (chars : List Char) : Prop :=
  ∀ c ∈ chars, c.isDigit = true

/-- Digits of a whole number: one at least, and a zero in front only alone. -/
structure WholeDigits (digits : List Char) : Prop where
  all : AllDigits digits
  nonempty : digits ≠ []
  lead : ∀ rest, digits = '0' :: rest → rest = []

theorem AllDigits.append {front back : List Char} (hfront : AllDigits front)
    (hback : AllDigits back) : AllDigits (front ++ back) := by
  intro c hmem
  rcases List.mem_append.mp hmem with h | h
  · exact hfront c h
  · exact hback c h

theorem AllDigits.cons {digit : Char} {rest : List Char} (hdigit : digit.isDigit = true)
    (hrest : AllDigits rest) : AllDigits (digit :: rest) := by
  intro c hmem
  rcases List.mem_cons.mp hmem with rfl | h
  · exact hdigit
  · exact hrest c h

theorem allDigits_replicate_zero (count : Nat) :
    AllDigits (List.replicate count '0') := by
  intro c hmem
  rw [List.eq_of_mem_replicate hmem]
  decide

/-- The digits of any number are digits. -/
theorem allDigits_toDigits (value : Nat) : AllDigits (Nat.toDigits 10 value) :=
  fun _ => Nat.isDigit_of_mem_toDigits (by decide) (by decide)

/-- The digits of a number spell it. -/
@[simp] theorem digitsValue_toDigits (value : Nat) :
    digitsValue (Nat.toDigits 10 value) = value :=
  Nat.ofDigitChars_ten_toDigits

/-- Digits behind others shift these by as many places. -/
theorem digitsValue_append (front back : List Char) :
    digitsValue (front ++ back) =
      digitsValue front * 10 ^ back.length + digitsValue back := by
  unfold digitsValue
  rw [Nat.ofDigitChars_append, Nat.ofDigitChars_eq_ofDigitChars_zero, Nat.mul_comm]

/-- Digits spell a number below the power of ten with as many zeros. -/
theorem digitsValue_lt {digits : List Char} (hall : AllDigits digits) :
    digitsValue digits < 10 ^ digits.length := by
  induction digits with
  | nil => exact Nat.one_pos
  | cons digit rest ih =>
      obtain ⟨hdigit, hrest⟩ := List.forall_mem_cons.mp hall
      have hlead : digitsValue [digit] ≤ 9 := by
        have hbounds := Char.isDigit_iff_toNat.mp hdigit
        simp only [digitsValue, Nat.ofDigitChars_cons, Nat.ofDigitChars_nil]
        have hzero : '0'.toNat = 48 := rfl
        have hnine : '9'.toNat = 57 := rfl
        omega
      have hless := ih hrest
      calc digitsValue (digit :: rest)
          = digitsValue [digit] * 10 ^ rest.length + digitsValue rest :=
            digitsValue_append [digit] rest
        _ < 10 * 10 ^ rest.length := by
            have hproduct := Nat.mul_le_mul_right (10 ^ rest.length) hlead
            omega
        _ = 10 ^ (digit :: rest).length := by rw [List.length_cons, Nat.pow_succ, Nat.mul_comm]

/-- Zeros alone are worth nothing. -/
@[simp] theorem digitsValue_replicate_zero (count : Nat) :
    digitsValue (List.replicate count '0') = 0 := by
  simp [digitsValue]

/-- Only zero has digits that start with zero. -/
theorem toDigits_lead {value : Nat} {rest : List Char}
    (hdigits : Nat.toDigits 10 value = '0' :: rest) : value = 0 := by
  induction value using Nat.strongRecOn generalizing rest with
  | ind value ih =>
      rw [Nat.toDigits_eq_if (by decide)] at hdigits
      split at hdigits
      · have hhead := List.cons.inj hdigits
        simpa using hhead.1
      · -- The leading digit is that of the value without its last digit.
        rename_i hlarge
        cases hfront : Nat.toDigits 10 (value / 10) with
        | nil => exact absurd hfront Nat.toDigits_ne_nil
        | cons digit others =>
            rw [hfront, List.cons_append] at hdigits
            rw [(List.cons.inj hdigits).1] at hfront
            have := ih (value / 10) (by omega) hfront
            omega

/-- The digits of a number are those of a whole number. -/
theorem wholeDigits_toDigits (value : Nat) : WholeDigits (Nat.toDigits 10 value) where
  all := allDigits_toDigits value
  nonempty := Nat.toDigits_ne_nil
  lead := by
    intro rest hdigits
    rw [toDigits_lead hdigits, Nat.toDigits_zero] at hdigits
    exact (List.cons.inj hdigits).2.symm

/-- Digits that start with no zero stay digits of a whole number with others behind. -/
theorem WholeDigits.of_lead {digit : Char} {rest : List Char}
    (hall : AllDigits (digit :: rest)) (hlead : digit ≠ '0') : WholeDigits (digit :: rest) where
  all := hall
  nonempty := List.cons_ne_nil digit rest
  lead := fun _ hdigits => absurd (List.cons.inj hdigits).1 hlead

/-- The digit zero is a whole number. -/
theorem wholeDigits_zero : WholeDigits ['0'] :=
  wholeDigits_toDigits 0

end Numeral

namespace Layout

/-- The zeros that end the digits are all that is dropped. -/
theorem stripZeros_append (digits : List Char) :
    ∃ count, digits = stripZeros digits ++ List.replicate count '0' := by
  refine ⟨(digits.reverse.takeWhile (· == '0')).length, ?_⟩
  have hzeros : digits.reverse.takeWhile (· == '0') =
      List.replicate (digits.reverse.takeWhile (· == '0')).length '0' := by
    apply List.eq_replicate_of_mem
    intro c hmem
    simpa using List.mem_takeWhile_imp hmem
  have hsplit := List.takeWhile_append_dropWhile (p := (· == '0')) (l := digits.reverse)
  calc digits = digits.reverse.reverse := digits.reverse_reverse.symm
    _ = (digits.reverse.takeWhile (· == '0') ++ digits.reverse.dropWhile (· == '0')).reverse := by
      rw [hsplit]
    _ = stripZeros digits ++ (digits.reverse.takeWhile (· == '0')).reverse := by
      rw [List.reverse_append]
      rfl
    _ = _ := by
      conv_lhs => rw [hzeros]
      rw [List.reverse_replicate]

/-- Digits that start with no zero still start so without the zeros at their end. -/
theorem stripZeros_lead {digit : Char} {rest : List Char} (hlead : digit ≠ '0') :
    ∃ others, stripZeros (digit :: rest) = digit :: others := by
  obtain ⟨count, hstrip⟩ := stripZeros_append (digit :: rest)
  cases hdigits : stripZeros (digit :: rest) with
  | nil =>
      rw [hdigits, List.nil_append] at hstrip
      have hmem : digit ∈ List.replicate count '0' := hstrip ▸ List.mem_cons_self
      exact absurd (List.eq_of_mem_replicate hmem) hlead
  | cons first others =>
      rw [hdigits, List.cons_append] at hstrip
      exact ⟨others, by rw [(List.cons.inj hstrip).1]⟩

end Layout

end SkillTiers
