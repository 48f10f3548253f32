/-
# Counts in requests

A body that is sent as JSON is read only if its integers have no more digits than a text
has. The other ways to write a count end sooner: a numeral has as many digits at most, and a
double stands for an integer of 64 bits only. So counts that a request brings have texts
(`WholeCounts.haveTexts_of_read`), and there is a key for them.
-/

import SkillTiers.Proofs.Cache.Key
import SkillTiers.Proofs.Number.Numeral
import SkillTiers.Proofs.Request.Conditions

namespace SkillTiers

-- A power is the one of the core library, whatever else is imported.
attribute [local instance (high)] instPowNat

namespace Numeral

/-- A usual numeral has no more digits than a text. -/
theorem hasText_of_usualInteger {chars : List Char} {value : Int}
    (hvalue : usualInteger chars = .ok value) : (Number.int value).HasText := by
  have hpositive : 0 < 10 ^ maxDigits := Nat.pow_pos (by decide)
  simp only [usualInteger] at hvalue
  split_ifs at hvalue with hzero hsingle hlong hother hnegative
  · cases hvalue
    exact hpositive
  all_goals
    cases hvalue
    have hdigits : AllDigits ((splitMinus chars).2.takeWhile Char.isDigit) :=
      fun _ => List.mem_takeWhile_imp
    have hless : digitsValue ((splitMinus chars).2.takeWhile Char.isDigit) < 10 ^ maxDigits :=
      Nat.lt_of_lt_of_le (digitsValue_lt hdigits)
        (Nat.pow_le_pow_right (by decide) (Nat.not_lt.mp hlong))
    simpa only [Number.HasText, Int.natAbs_neg, Int.natAbs_natCast] using hless

/-- Nor has a numeral that is written more freely. -/
theorem hasText_of_integer {text : String} {value : Int} (hvalue : integer text = .ok value) :
    (Number.int value).HasText := by
  unfold integer at hvalue
  split at hvalue
  · split at hvalue
    · rename_i hfree
      cases hvalue
      obtain ⟨chars, -, hchars⟩ := Option.map_eq_some_iff.mp hfree
      exact hasText_of_usualInteger hchars
    · cases hvalue
  · exact hasText_of_usualInteger hvalue

end Numeral

/-- An integer that is allowed has a text. -/
theorem Json.hasText_of_allow {value : Number} {room : Nat}
    (hallowed : (Json.number value).allow room = .ok ()) : value.HasText := by
  have hcheck := value.checkText_eq
  cases value with
  | float value => trivial
  | int value =>
      have hallowed' : (Json.number (.int value)).allow Json.maxRoom = .ok () := by
        rw [Json.allow] at hallowed ⊢
        exact hallowed
      rw [Json.checkText, hallowed'] at hcheck
      by_contra htext
      rw [if_neg htext] at hcheck
      cases hcheck

namespace Reading

/-- An integer that is read has a text, if it was allowed where it stands as a number. -/
theorem hasText_of_whole {given : Json} {value : Int} {room : Nat}
    (hallowed : given.allow room = .ok ()) (hvalue : whole given = .ok value) :
    (Number.int value).HasText := by
  have hsmall {value : Int} (hvalue : value.natAbs < int64Bound) : (Number.int value).HasText := by
    have hbound : int64Bound ≤ 10 ^ Numeral.maxDigits := by decide +kernel
    exact Nat.lt_of_lt_of_le hvalue hbound
  unfold whole at hvalue
  split at hvalue
  · cases hvalue
    exact Json.hasText_of_allow hallowed
  · unfold wholeDouble at hvalue
    split at hvalue
    · dsimp only at hvalue
      split_ifs at hvalue with hwhole hrange hnegative
      all_goals
        cases hvalue
        refine hsmall ?_
        simpa only [Int.natAbs_neg, Int.natAbs_natCast] using hrange
    · cases hvalue
  · cases hvalue
    refine hsmall ?_
    split <;> decide
  · unfold wholeText at hvalue
    split at hvalue
    · rename_i hinteger
      cases hvalue
      exact Numeral.hasText_of_integer hinteger
    · cases hvalue
    · cases hvalue
  · cases hvalue

/-- So has a number that is read from a field of an object that is allowed. -/
theorem hasText_of_required {fields : List (String × Json)} {key : String} {value room : Nat}
    (hallowed : (Json.object fields).allow room = .ok ())
    (hvalid : required fields key natural = .valid value) : (Number.int value).HasText := by
  obtain ⟨given, hlookup, hgiven⟩ := required_valid hvalid
  obtain ⟨number, hnumber, rfl⟩ := map_valid hgiven
  have hinside : given.allow (room - 1) = .ok () := by
    rw [Json.allow] at hallowed
    split at hallowed
    · cases hallowed
    · obtain ⟨field, hfound, rfl⟩ := Option.map_eq_some_iff.mp hlookup
      exact Json.allowFields_ok_iff.mp hallowed field (List.mem_of_find?_eq_some hfound)
  have hconverted := converted_valid hnumber
  cases hwhole : whole given with
  | error kind =>
      rw [hwhole] at hconverted
      cases hconverted
  | ok whole =>
      have htext := hasText_of_whole hinside hwhole
      rw [hwhole] at hconverted
      simp only [bind, Except.bind] at hconverted
      split_ifs at hconverted with hbound
      cases hconverted
      rwa [Int.toNat_of_nonneg hbound]

end Reading

open Reading in
/-- Counts that are read from a value that is allowed have texts. -/
theorem WholeCounts.haveTexts_of_read {otherwise : ProblemKind} {body : Json}
    {counts : WholeCounts} {room : Nat} (hallowed : body.allow room = .ok ())
    (hvalid : read otherwise body = .valid counts) : counts.toCounts.HaveTexts := by
  unfold read at hvalid
  cases body with
  | object fields =>
      obtain ⟨_, total, hthree, htotal, rfl⟩ := seq_valid hvalid
      obtain ⟨_, low, htwo, hlow, rfl⟩ := seq_valid hthree
      obtain ⟨_, medium, hone, hmedium, rfl⟩ := seq_valid htwo
      obtain ⟨high, hhigh, rfl⟩ := map_valid hone
      unfold Counts.HaveTexts Counts.named toCounts
      simp only [List.forall_mem_cons, List.not_mem_nil, false_implies, implies_true, and_true]
      exact ⟨hasText_of_required hallowed hhigh, hasText_of_required hallowed hmedium,
        hasText_of_required hallowed hlow, hasText_of_required hallowed htotal⟩
  | _ => cases hvalid

end SkillTiers
