/-
# Trimming

Trimming takes the characters that satisfy a test away from both ends of a text and leaves
those inside (`trimChars_append`, `trimChars_between`). More of them at an end do not matter,
and what is trimmed stays as it is when it is trimmed again (`trimChars_trimChars`).
-/

import Mathlib.Data.List.DropRight
import SkillTiers.Text.Blank

namespace SkillTiers

variable {test : Char → Bool}

/-- What is trimmed stands at the ends, and all of it satisfies the test. -/
theorem trimChars_append (test : Char → Bool) (chars : List Char) :
    ∃ front back, chars = front ++ trimChars test chars ++ back ∧
      (∀ c ∈ front, test c = true) ∧ ∀ c ∈ back, test c = true := by
  have hfront := List.takeWhile_append_dropWhile (p := test) (l := chars)
  have hback := List.takeWhile_append_dropWhile (p := test) (l := (chars.dropWhile test).reverse)
  refine ⟨chars.takeWhile test, ((chars.dropWhile test).reverse.takeWhile test).reverse, ?_,
    fun _ => List.mem_takeWhile_imp, ?_⟩
  · unfold trimChars
    rw [List.append_assoc, ← List.reverse_append, hback, List.reverse_reverse, hfront]
  · intro c hmem
    exact List.mem_takeWhile_imp (List.mem_reverse.mp hmem)

/-- What satisfies the test is dropped in front of what does not. -/
private theorem dropWhile_append {front rest : List Char} (hfront : ∀ c ∈ front, test c = true)
    (hrest : ∀ c ∈ rest, test c = false) : (front ++ rest).dropWhile test = rest := by
  rw [List.dropWhile_append_of_pos hfront]
  cases rest with
  | nil => rfl
  | cons c others => simp [hrest c List.mem_cons_self]

/-- Between characters that satisfy the test, those that do not are left. -/
theorem trimChars_between {front middle back : List Char} (hfront : ∀ c ∈ front, test c = true)
    (hmiddle : ∀ c ∈ middle, test c = false) (hback : ∀ c ∈ back, test c = true) :
    trimChars test (front ++ middle ++ back) = middle := by
  have hdrop : (front ++ middle ++ back).dropWhile test =
      if middle = [] then [] else middle ++ back := by
    rw [List.append_assoc, List.dropWhile_append_of_pos hfront]
    cases middle with
    | nil => simpa using hback
    | cons c others => simp [hmiddle c List.mem_cons_self]
  unfold trimChars
  rw [hdrop]
  split
  · rename_i hnone
    simp [hnone]
  · rw [List.reverse_append, dropWhile_append (by simpa using hback) (by simpa using hmiddle),
      List.reverse_reverse]

theorem trimChars_cons_of_pos {c : Char} (hc : test c = true) (chars : List Char) :
    trimChars test (c :: chars) = trimChars test chars := by
  unfold trimChars
  rw [List.dropWhile_cons_of_pos hc]

theorem trimChars_concat_of_pos {c : Char} (hc : test c = true) (chars : List Char) :
    trimChars test (chars ++ [c]) = trimChars test chars := by
  unfold trimChars
  rw [List.dropWhile_append]
  split
  · rename_i hnone
    rw [List.isEmpty_iff.mp hnone, List.dropWhile_cons_of_pos hc, List.dropWhile_nil]
  · rw [List.reverse_append, List.reverse_singleton, List.singleton_append,
      List.dropWhile_cons_of_pos hc]

/-- A text that is trimmed has nothing more to trim. -/
theorem trimChars_trimChars (test : Char → Bool) (chars : List Char) :
    trimChars test (trimChars test chars) = trimChars test chars := by
  have htrim : trimChars test chars = (chars.dropWhile test).rdropWhile test := rfl
  -- In front nothing is left to drop, since the trimmed text begins as the dropped one does.
  have hfront : (trimChars test chars).dropWhile test = trimChars test chars := by
    obtain ⟨back, hback⟩ := List.rdropWhile_prefix test (chars.dropWhile test)
    rw [← htrim] at hback
    cases htrimmed : trimChars test chars with
    | nil => rfl
    | cons c rest =>
        rw [htrimmed, List.cons_append] at hback
        have hc := List.head_dropWhile_not test (l := chars) (by simp [← hback])
        simp only [← hback, List.head_cons] at hc
        exact List.dropWhile_cons_of_neg (by simp [hc])
  rw [trimChars, hfront, htrim]
  exact List.rdropWhile_idempotent test (chars.dropWhile test)

end SkillTiers
