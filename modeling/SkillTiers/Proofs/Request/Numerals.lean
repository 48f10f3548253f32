/-
# Numbers that both readers read

A text that a request brings for a double is read in one of two ways: blanks around the
numeral are passed over, or the underscores that set its characters apart are. A stored
text is read in one way for both, but its underscores must stand between digits. So the
two readers read one double, unless an underscore stands elsewhere; then the stored text
is no number at all (`Numeral.parse?_of_double?`).

A numeral itself has neither blanks nor underscores in it, and no character beyond the
ASCII range (`Numeral.visible_of_ofNumeral?`), which is what the two have in common.
-/

import SkillTiers.Proofs.Number.Numeral
import SkillTiers.Proofs.Trimming
import SkillTiers.Request.Numerals

namespace SkillTiers

namespace Numeral

/-! ### The characters of numerals -/

/-- A character of the ASCII range that is no blank and no underscore. -/
structure Visible (c : Char) : Prop where
  aboveBlanks : 0x20 < c.toNat
  isAscii : c.toNat < 0x80
  notUnderscore : c ≠ '_'

instance (c : Char) : Decidable (Visible c) :=
  decidable_of_iff (0x20 < c.toNat ∧ c.toNat < 0x80 ∧ c ≠ '_')
    ⟨fun h => ⟨h.1, h.2.1, h.2.2⟩, fun h => ⟨h.1, h.2, h.3⟩⟩

theorem visible_of_isDigit {c : Char} (hdigit : c.isDigit = true) : Visible c := by
  have hbounds := Char.isDigit_iff_toNat.mp hdigit
  refine ⟨Nat.lt_of_lt_of_le (by decide) hbounds.1, Nat.lt_of_le_of_lt hbounds.2 (by decide), ?_⟩
  rintro rfl
  exact absurd hdigit (by decide)

theorem visible_of_toLower {c : Char} (hlower : Visible c.toLower) : Visible c := by
  by_cases hupper : 'A'.val ≤ c.val ∧ c.val ≤ 'Z'.val
  · have hfirst : 0x41 ≤ c.toNat := hupper.1
    have hlast : c.toNat ≤ 0x5A := hupper.2
    refine ⟨by omega, by omega, ?_⟩
    rintro rfl
    exact absurd hlast (by decide)
  · have hsame : c.toLower = c := dif_neg hupper
    rwa [hsame] at hlower

/-- If what follows the sign is visible, all is. -/
theorem visible_of_splitSign {chars : List Char}
    (hrest : ∀ c ∈ (splitSign chars).2, Visible c) : ∀ c ∈ chars, Visible c := by
  unfold splitSign at hrest
  split at hrest
  · exact List.forall_mem_cons.mpr ⟨by decide, hrest⟩
  · exact List.forall_mem_cons.mpr ⟨by decide, hrest⟩
  · exact hrest

theorem visible_of_exponent? {chars : List Char} {exponent : Int}
    (hexponent : exponent? chars = some exponent) : ∀ c ∈ chars, Visible c := by
  simp only [exponent?] at hexponent
  split at hexponent
  · rename_i hdigits
    rw [Bool.and_eq_true, List.all_eq_true] at hdigits
    exact visible_of_splitSign fun c hmem => visible_of_isDigit (hdigits.2 c hmem)
  · cases hexponent

/-- Digits, a point or none, and digits again are split from what follows them. -/
theorem splitPoint_append (chars : List Char) :
    ∃ point, chars = (splitPoint chars).1 ++ point ++ (splitPoint chars).2.1 ++
        (splitPoint chars).2.2 ∧
      AllDigits (splitPoint chars).1 ∧ (∀ c ∈ point, c = '.') ∧
        AllDigits (splitPoint chars).2.1 := by
  have hwhole := List.takeWhile_append_dropWhile (p := Char.isDigit) (l := chars)
  have hdigits : AllDigits (chars.takeWhile Char.isDigit) := fun _ => List.mem_takeWhile_imp
  unfold splitPoint
  split
  · rename_i rest hrest
    have hfraction := List.takeWhile_append_dropWhile (p := Char.isDigit) (l := rest)
    refine ⟨['.'], ?_, hdigits, by simp, fun _ => List.mem_takeWhile_imp⟩
    rw [List.append_assoc, hfraction, List.append_assoc, List.singleton_append, ← hrest, hwhole]
  · refine ⟨[], ?_, hdigits, by simp, by simp [AllDigits]⟩
    simp [hwhole]

theorem visible_of_decimal? {chars : List Char} {decimal : Decimal}
    (hdecimal : decimal? chars = some decimal) : ∀ c ∈ chars, Visible c := by
  obtain ⟨point, hchars, hwhole, hpoint, hfraction⟩ := splitPoint_append chars
  have hbehind : ∀ c ∈ (splitPoint chars).2.2, Visible c := by
    unfold decimal? at hdecimal
    split at hdecimal
    · cases hdecimal
    · rename_i hsplit
      simp [hsplit]
    · rename_i mark rest _ hsplit
      rw [hsplit, List.forall_mem_cons]
      split at hdecimal
      · rename_i hmark
        obtain ⟨exponent, hexponent, -⟩ := Option.map_eq_some_iff.mp hdecimal
        refine ⟨?_, visible_of_exponent? hexponent⟩
        rcases hmark with rfl | rfl
        · decide
        · decide
      · cases hdecimal
  rw [hchars]
  simp only [List.forall_mem_append]
  refine ⟨⟨⟨fun c hmem => visible_of_isDigit (hwhole c hmem), fun c hmem => ?_⟩,
    fun c hmem => visible_of_isDigit (hfraction c hmem)⟩, hbehind⟩
  rw [hpoint c hmem]
  decide

/-- All characters of a numeral are visible. -/
theorem visible_of_ofNumeral? {chars : List Char} {double : Double}
    (hnumeral : Double.ofNumeral? chars = some double) : ∀ c ∈ chars, Visible c := by
  have hnamed {rest : List Char} {name : String}
      (hname : String.ofList (rest.map Char.toLower) = name)
      (hvisible : name.toList.all (fun c => decide (Visible c)) = true) :
      ∀ c ∈ rest, Visible c := by
    intro c hmem
    rw [← hname, String.toList_ofList, List.all_eq_true] at hvisible
    exact visible_of_toLower (of_decide_eq_true (hvisible _ (List.mem_map_of_mem hmem)))
  apply visible_of_splitSign
  simp only [Double.ofNumeral?] at hnumeral
  split_ifs at hnumeral with hinfinite hnan
  · rcases hinfinite with hname | hname
    · exact hnamed hname (by decide)
    · exact hnamed hname (by decide)
  · exact hnamed hnan (by decide)
  · obtain ⟨decimal, hdecimal, -⟩ := Option.map_eq_some_iff.mp hnumeral
    exact visible_of_decimal? hdecimal

/-! ### The two readers -/

/-- Underscores cannot stand in a wrong place where there are none. -/
theorem underscoresFit_of_none {chars : List Char} (hnone : ∀ c ∈ chars, c ≠ '_')
    (previous : Bool) : underscoresFit previous chars = true := by
  induction chars generalizing previous with
  | nil => rfl
  | cons c rest ih =>
      obtain ⟨hfirst, hrest⟩ := List.forall_mem_cons.mp hnone
      rw [underscoresFit]
      · exact ih hrest _
      · exact fun hunderscore => absurd hunderscore hfirst
      · exact fun _ _ hunderscore => absurd hunderscore hfirst

/-- Nothing becomes of an ASCII character. -/
theorem plainChar_of_isAscii {c : Char} (hascii : c.toNat < 0x80) : plainChar c = c :=
  if_pos hascii

/-- The blanks of the ASCII range by their codes. -/
theorem isAsciiBlank_iff (c : Char) :
    isAsciiBlank c = true ↔ c.toNat ∈ [0x20, 0x9, 0xA, 0xD, 0xB, 0xC] := by
  have hcode (other : Char) : c = other ↔ c.toNat = other.toNat := Char.toNat_inj.symm
  simp [isAsciiBlank, hcode, or_assoc]

theorem Visible.isAsciiBlank_eq {c : Char} (hvisible : Visible c) : isAsciiBlank c = false := by
  have habove := hvisible.aboveBlanks
  rw [← Bool.not_eq_true, isAsciiBlank_iff]
  simp only [List.mem_cons, List.not_mem_nil, or_false]
  omega

/-- White space of any script is a blank once it is plain. -/
theorem isAsciiBlank_plainChar {c : Char} (hwhite : isWhiteSpace c = true) :
    isAsciiBlank (plainChar c) = true := by
  obtain ⟨hblank, hseparator⟩ := (Bool.and_eq_true _ _).mp hwhite
  by_cases hascii : c.toNat < 0x80
  · rw [plainChar_of_isAscii hascii, isAsciiBlank_iff]
    simp only [isBlank, blankCodes, List.contains_eq_mem, decide_eq_true_eq, List.mem_cons,
      List.not_mem_nil, or_false] at hblank
    simp only [Bool.not_eq_true', Bool.and_eq_false_iff, decide_eq_false_iff_not] at hseparator
    simp only [List.mem_cons, List.not_mem_nil, or_false]
    omega
  · have hspace : plainChar c = ' ' := by
      unfold plainChar
      rw [if_neg hascii, if_pos hblank]
    rw [hspace]
    decide

/-- White space around visible characters and underscores does not count. -/
theorem parse?_between {text : String} {front middle back : List Char}
    (htext : text.toList = front ++ middle ++ back) (hfront : ∀ c ∈ front, isWhiteSpace c = true)
    (hmiddle : ∀ c ∈ middle, Visible c ∨ c = '_') (hback : ∀ c ∈ back, isWhiteSpace c = true) :
    Double.parse? text = (dropUnderscores? middle).bind Double.ofNumeral? := by
  have hplain : middle.map plainChar = middle := by
    have hascii : ∀ c ∈ middle, plainChar c = c := by
      intro c hmem
      apply plainChar_of_isAscii
      rcases hmiddle c hmem with hvisible | rfl
      · exact hvisible.isAscii
      · decide
    rw [List.map_congr_left hascii, List.map_id']
  have htrimmed : trimChars isAsciiBlank (text.toList.map plainChar) = middle := by
    rw [htext, List.map_append, List.map_append, hplain]
    apply trimChars_between
    · exact List.forall_mem_map.mpr fun c hmem => isAsciiBlank_plainChar (hfront c hmem)
    · intro c hmem
      rcases hmiddle c hmem with hvisible | rfl
      · exact hvisible.isAsciiBlank_eq
      · decide
    · exact List.forall_mem_map.mpr fun c hmem => isAsciiBlank_plainChar (hback c hmem)
  rw [← htrimmed]
  rfl

/-- A numeral with white space around it has no underscores. -/
theorem parse?_of_trimmed {text : String} {double : Double}
    (hnumeral : Double.ofNumeral? (trimChars isWhiteSpace text.toList) = some double) :
    underscoresFit false text.toList = true ∧ Double.parse? text = some double := by
  have hvisible := visible_of_ofNumeral? hnumeral
  obtain ⟨front, back, htext, hfront, hback⟩ := trimChars_append isWhiteSpace text.toList
  have hmiddle : ∀ c ∈ trimChars isWhiteSpace text.toList, c ≠ '_' :=
    fun c hmem => (hvisible c hmem).notUnderscore
  have hwhite {c : Char} (hc : isWhiteSpace c = true) : c ≠ '_' := by
    rintro rfl
    exact absurd hc (by decide)
  constructor
  · apply underscoresFit_of_none
    rw [htext, List.forall_mem_append, List.forall_mem_append]
    exact ⟨⟨fun c hmem => hwhite (hfront c hmem), hmiddle⟩, fun c hmem => hwhite (hback c hmem)⟩
  · have hfilter : (trimChars isWhiteSpace text.toList).filter (· != '_') =
        trimChars isWhiteSpace text.toList := by
      apply List.filter_eq_self.mpr
      simpa using hmiddle
    rw [parse?_between htext hfront (fun c hmem => .inl (hvisible c hmem)) hback]
    simp [dropUnderscores?, underscoresFit_of_none hmiddle, hfilter, hnumeral]

/-- Where underscores set the characters of a numeral apart, there is no white space. -/
theorem parse?_of_joined {text : String} {joined : List Char} {double : Double}
    (hjoined : joined? text.toList = some joined)
    (hnumeral : Double.ofNumeral? joined = some double) :
    Double.parse? text = if underscoresFit false text.toList then some double else none := by
  have hfilter : text.toList.filter (· != '_') = joined := by
    unfold joined? at hjoined
    split at hjoined
    · cases hjoined
    · exact Option.some.inj hjoined
  have hmiddle : ∀ c ∈ text.toList, Visible c ∨ c = '_' := by
    intro c hmem
    by_cases hunderscore : c = '_'
    · exact .inr hunderscore
    · apply Or.inl
      apply visible_of_ofNumeral? hnumeral
      rw [← hfilter]
      exact List.mem_filter.mpr ⟨hmem, by simpa using hunderscore⟩
  have hwhole : text.toList = [] ++ text.toList ++ [] := by simp
  rw [parse?_between hwhole (List.forall_mem_nil _) hmiddle (List.forall_mem_nil _)]
  unfold dropUnderscores?
  rw [hfilter]
  split
  · exact hnumeral
  · rfl

/-- What a request reads as a double is read as the same one without it, unless an
underscore does not stand between digits: then it is no number. -/
theorem parse?_of_double? {text : String} {double : Double} (hdouble : double? text = some double) :
    Double.parse? text = if underscoresFit false text.toList then some double else none := by
  unfold double? at hdouble
  cases hnumeral : Double.ofNumeral? (trimChars isWhiteSpace text.toList) with
  | some value =>
      rw [hnumeral] at hdouble
      cases hdouble
      obtain ⟨hfit, hparse⟩ := parse?_of_trimmed hnumeral
      rw [hparse, if_pos hfit]
  | none =>
      rw [hnumeral] at hdouble
      obtain ⟨joined, hjoined, hdouble⟩ := Option.bind_eq_some_iff.mp hdouble
      exact parse?_of_joined hjoined hdouble

end Numeral

end SkillTiers
