/-
# Reading strings back

A written string is read back to the same text and the same rest
(`readString_append`): every escape names the UTF-16 units of its character, and
the units of a text join to that text, since no character is half a pair.
-/

import SkillTiers.Json.Reader
import SkillTiers.Json.Writer
import Mathlib.Tactic.IntervalCases

namespace SkillTiers

/-- A hexadecimal digit has its value. -/
theorem hexValue?_digitChar {value : Nat} (hvalue : value < 16) :
    hexValue? (Nat.digitChar value) = some value := by
  interval_cases value <;> rfl

/-- Four hexadecimal digits spell the number that they are written for. -/
theorem hexQuad?_digits {unit : Nat} (hunit : unit < 0x10000) :
    hexQuad? (Nat.digitChar (unit / 16 / 16 / 16 % 16)) (Nat.digitChar (unit / 16 / 16 % 16))
      (Nat.digitChar (unit / 16 % 16)) (Nat.digitChar (unit % 16)) = some unit := by
  unfold hexQuad?
  rw [hexValue?_digitChar (Nat.mod_lt _ (by decide)),
    hexValue?_digitChar (Nat.mod_lt _ (by decide)),
    hexValue?_digitChar (Nat.mod_lt _ (by decide)),
    hexValue?_digitChar (Nat.mod_lt _ (by decide))]
  simp only [Option.bind_eq_bind, Option.bind_some, Option.pure_def]
  congr 1
  omega

namespace Json

/-- A unit before the units that are read from what follows. -/
private def withUnits (units : List Nat) (read : Option (List Nat × List Char)) :
    Option (List Nat × List Char) :=
  read.map fun result => (units ++ result.1, result.2)

/-- An escape of four digits is read as its unit. -/
private theorem readUnits_unitEscape {unit : Nat} (hunit : unit < 0x10000) (chars : List Char) :
    readUnits (unitEscape unit ++ chars) = withUnits [unit] (readUnits chars) := by
  have hquad := hexQuad?_digits hunit
  have hchars : unitEscape unit ++ chars =
      '\\' :: 'u' :: Nat.digitChar (unit / 16 / 16 / 16 % 16) ::
        Nat.digitChar (unit / 16 / 16 % 16) :: Nat.digitChar (unit / 16 % 16) ::
        Nat.digitChar (unit % 16) :: chars := rfl
  rw [hchars, readUnits, hquad]
  cases readUnits chars with
  | none => rfl
  | some result => rfl

/-- A short escape is read as its character. -/
private theorem readUnits_shortEscape {escape c : Char} (hunit : escape ≠ 'u')
    (hescape : shortEscape? escape = some c) (chars : List Char) :
    readUnits ('\\' :: escape :: chars) = withUnits [c.toNat] (readUnits chars) := by
  rw [readUnits, hescape]
  · cases readUnits chars with
    | none => rfl
    | some result => rfl
  · intro _ _ _ _ _ h
    exact absurd h hunit

/-- A character that needs no escape is read as it stands. -/
private theorem readUnits_plain {c : Char} (hquote : c ≠ '"') (hslash : c ≠ '\\')
    (hprintable : ' ' ≤ c) (chars : List Char) :
    readUnits (c :: chars) = withUnits [c.toNat] (readUnits chars) := by
  have hcode : ¬ (c = '\\' ∨ c.toNat < 0x20) := by
    rintro (h | h)
    · exact hslash h
    · have : (0x20 : Nat) ≤ c.toNat := hprintable
      omega
  rw [readUnits, if_neg hcode]
  · cases readUnits chars with
    | none => rfl
    | some result => rfl
  · exact hquote
  · intro _ _ _ _ _ h
    exact absurd h hslash
  · intro _ _ h
    exact absurd h hslash

/-- A character that is no unit of its own is written as a pair. -/
private theorem utf16Units_pair {c : Char} (hlarge : ¬ c.toNat < 0x10000) :
    ∃ high low, utf16Units c = [high, low] ∧ high < 0x10000 ∧ low < 0x10000 ∧
      isHighHalf high = true ∧ isLowHalf low = true ∧
      Char.ofNat (0x10000 + (high - 0xD800) * 0x400 + (low - 0xDC00)) = c := by
  have hrange : c.toNat < 0x110000 := by
    rcases c.valid with h | ⟨-, h⟩
    · exact absurd (lt_trans h (by decide : 0xD800 < 0x10000)) hlarge
    · exact h
  refine ⟨_, _, by rw [utf16Units, if_neg hlarge], by omega, by omega, ?_, ?_, ?_⟩
  · simp only [isHighHalf, Bool.and_eq_true, decide_eq_true_eq]
    omega
  · simp only [isLowHalf, Bool.and_eq_true, decide_eq_true_eq]
    omega
  · have hcode : 0x10000 + (0xD800 + (c.toNat - 0x10000) / 0x400 - 0xD800) * 0x400 +
        (0xDC00 + (c.toNat - 0x10000) % 0x400 - 0xDC00) = c.toNat := by omega
    rw [hcode, Char.ofNat_toNat]

/-- The escapes of a character are read as its units. -/
private theorem readUnits_escapes (c : Char) (chars : List Char) :
    readUnits ((utf16Units c).flatMap unitEscape ++ chars) =
      withUnits (utf16Units c) (readUnits chars) := by
  by_cases hsmall : c.toNat < 0x10000
  · have hunits : utf16Units c = [c.toNat] := by rw [utf16Units, if_pos hsmall]
    rw [hunits, List.flatMap_singleton]
    exact readUnits_unitEscape hsmall chars
  · obtain ⟨high, low, hunits, hhigh, hlow, -⟩ := utf16Units_pair hsmall
    rw [hunits, List.flatMap_cons, List.flatMap_singleton, List.append_assoc,
      readUnits_unitEscape hhigh, readUnits_unitEscape hlow]
    cases readUnits chars with
    | none => rfl
    | some result => rfl

/-- A written character is read as its units. -/
private theorem readUnits_writeChar (c : Char) (chars : List Char) :
    readUnits (writeChar c ++ chars) = withUnits (utf16Units c) (readUnits chars) := by
  have hshort {short escape : Char} (hunit : escape ≠ 'u') (hsmall : short.toNat < 0x10000)
      (hescape : shortEscape? escape = some short) :
      readUnits (['\\', escape] ++ chars) = withUnits (utf16Units short) (readUnits chars) := by
    rw [utf16Units, if_pos hsmall]
    exact readUnits_shortEscape hunit hescape chars
  unfold writeChar
  split_ifs with hquote hslash hline hreturn htab hfeed hback hplain
  · subst hquote
    exact hshort (by decide) (by decide) rfl
  · subst hslash
    exact hshort (by decide) (by decide) rfl
  · subst hline
    exact hshort (by decide) (by decide) rfl
  · subst hreturn
    exact hshort (by decide) (by decide) rfl
  · subst htab
    exact hshort (by decide) (by decide) rfl
  · subst hfeed
    exact hshort (by decide) (by decide) rfl
  · subst hback
    exact hshort (by decide) (by decide) rfl
  · have hsmall : c.toNat < 0x10000 :=
      lt_of_le_of_lt (hplain.2 : c.toNat ≤ '~'.toNat) (by decide)
    rw [utf16Units, if_pos hsmall]
    exact readUnits_plain hquote hslash hplain.1 chars
  · exact readUnits_escapes c chars

/-- A written text is read as the units of its characters, up to its closing quote. -/
private theorem readUnits_append (text rest : List Char) :
    readUnits (text.flatMap writeChar ++ '"' :: rest) =
      some (text.flatMap utf16Units, rest) := by
  induction text with
  | nil => rw [List.flatMap_nil, List.nil_append, readUnits, List.flatMap_nil]
  | cons c text ih =>
      rw [List.flatMap_cons, List.append_assoc, readUnits_writeChar, ih, List.flatMap_cons]
      rfl

/-- The units of a character join to it, whatever follows. -/
private theorem joinUnits_utf16Units (c : Char) (units : List Nat) :
    joinUnits (utf16Units c ++ units) = c :: joinUnits units := by
  by_cases hsmall : c.toNat < 0x10000
  · have hlone : isHighHalf c.toNat = false ∧ isLowHalf c.toNat = false := by
      have hvalid : c.toNat < 0xD800 ∨ 0xDFFF < c.toNat ∧ c.toNat < 0x110000 := c.valid
      simp only [isHighHalf, isLowHalf, Bool.and_eq_false_iff, decide_eq_false_iff_not]
      omega
    have hchar : unitChar c.toNat = c := by
      rw [unitChar, hlone.1, hlone.2, if_neg (by decide), Char.ofNat_toNat]
    rw [utf16Units, if_pos hsmall, List.singleton_append]
    cases units with
    | nil => exact congrArg (fun single => [single]) hchar
    | cons next others => rw [joinUnits, hlone.1, Bool.false_and, if_neg (by decide), hchar]
  · obtain ⟨high, low, hunits, -, -, hhigh, hlow, hchar⟩ := utf16Units_pair hsmall
    rw [hunits, List.cons_append, List.singleton_append, joinUnits, hhigh, hlow, Bool.and_true,
      if_pos rfl, hchar]

/-- The units of a text join to it. -/
theorem joinUnits_flatMap (text : List Char) : joinUnits (text.flatMap utf16Units) = text := by
  induction text with
  | nil => rfl
  | cons c text ih => rw [List.flatMap_cons, joinUnits_utf16Units, ih]

/-- A written string is read back up to its closing quote. -/
theorem readString_append (text : String) (rest : List Char) :
    readString (text.toList.flatMap writeChar ++ '"' :: rest) = .ok (text, rest) := by
  unfold readString
  rw [readUnits_append]
  dsimp only
  rw [joinUnits_flatMap, String.ofList_toList]

/-- A written string determines the text and the rest. -/
theorem writeString_append_inj {first second : String} {firstRest secondRest : List Char}
    (htext : writeString first ++ firstRest = writeString second ++ secondRest) :
    first = second ∧ firstRest = secondRest := by
  unfold writeString at htext
  simp only [List.cons_append, List.append_assoc, List.nil_append] at htext
  have hread := readString_append first firstRest
  rw [(List.cons.inj htext).2, readString_append second secondRest] at hread
  obtain ⟨hsame, hrests⟩ := Prod.mk.inj (Except.ok.inj hread)
  exact ⟨hsame.symm, hrests.symm⟩

end Json

end SkillTiers
