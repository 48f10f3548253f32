/-
# Reading numbers back

Whatever number is written in front of a text that cannot continue it, the reader
takes exactly that number off the front. For a double this is the number itself
(`readNumber_float`); for an integer it is what the digits of that integer read to
(`readNumber_int`), which is the integer unless there are too many of them. From
both follows that a written number determines the number and the rest
(`writeNumber_append_inj`).
-/

import SkillTiers.Json.Reader
import SkillTiers.Json.Writer
import SkillTiers.Proofs.Number.Layout

namespace SkillTiers

namespace Json

open Numeral

/-- Text in front of which a numeral ends: no digit, point or exponent mark. -/
def EndsNumeral (rest : List Char) : Prop :=
  ∀ c ∈ rest.head?, c.isDigit = false ∧ c ≠ '.' ∧ c ≠ 'e' ∧ c ≠ 'E'

/-- Text in front of which a run of digits ends. -/
def EndsDigits (rest : List Char) : Prop :=
  ∀ c ∈ rest.head?, c.isDigit = false

theorem EndsNumeral.digits {rest : List Char} (hrest : EndsNumeral rest) : EndsDigits rest :=
  fun c hmem => (hrest c hmem).1

theorem endsNumeral_nil : EndsNumeral [] :=
  fun _ hmem => absurd hmem (Option.not_mem_none _)

theorem endsNumeral_cons {c : Char} {rest : List Char}
    (hstop : c.isDigit = false ∧ c ≠ '.' ∧ c ≠ 'e' ∧ c ≠ 'E') : EndsNumeral (c :: rest) := by
  intro first hmem
  rw [List.head?_cons, Option.mem_some_iff] at hmem
  exact hmem ▸ hstop

theorem endsDigits_cons {c : Char} {rest : List Char} (hstop : c.isDigit = false) :
    EndsDigits (c :: rest) := by
  intro first hmem
  rw [List.head?_cons, Option.mem_some_iff] at hmem
  exact hmem ▸ hstop

/-! ### Runs of digits -/

variable {digits rest : List Char}

/-- The run of digits ends where the digits do. -/
theorem takeWhile_digits (hall : AllDigits digits) (hrest : EndsDigits rest) :
    (digits ++ rest).takeWhile Char.isDigit = digits := by
  rw [List.takeWhile_append_of_pos hall]
  cases rest with
  | nil => simp
  | cons c others =>
      have hstop : c.isDigit = false := hrest c rfl
      simp [hstop]

/-- Behind the run of digits comes the rest. -/
theorem dropWhile_digits (hall : AllDigits digits) (hrest : EndsDigits rest) :
    (digits ++ rest).dropWhile Char.isDigit = rest := by
  rw [List.dropWhile_append_of_pos hall]
  cases rest with
  | nil => rfl
  | cons c others =>
      have hstop : c.isDigit = false := hrest c rfl
      simp [hstop]

/-- A whole part is read to its end. -/
theorem readWhole_append (hwhole : WholeDigits digits) (hrest : EndsDigits rest) :
    readWhole (digits ++ rest) = some (digits, rest) := by
  have htake := takeWhile_digits hwhole.all hrest
  have hdrop := dropWhile_digits hwhole.all hrest
  cases digits with
  | nil => exact absurd rfl hwhole.nonempty
  | cons digit others =>
      by_cases hzero : digit = '0'
      · subst hzero
        rw [hwhole.lead others rfl]
        rfl
      · unfold readWhole
        split
        · rename_i heq
          exact absurd (List.cons.inj heq).1 hzero
        · rw [htake, hdrop]

/-- A fraction is read to its end. -/
theorem readFraction_append (hall : AllDigits digits) (hnonempty : digits ≠ [])
    (hrest : EndsDigits rest) : readFraction ('.' :: (digits ++ rest)) = some (digits, rest) := by
  unfold readFraction
  simp only [takeWhile_digits hall hrest, dropWhile_digits hall hrest]

/-- Without a point there is no fraction. -/
theorem readFraction_none (hrest : ∀ c ∈ rest.head?, c ≠ '.') : readFraction rest = none := by
  unfold readFraction
  split
  · exact absurd rfl (hrest '.' rfl)
  · rfl

/-- Without a mark there is no exponent. -/
theorem readExponent_none (hrest : EndsNumeral rest) : readExponent rest = none := by
  cases rest with
  | nil => rfl
  | cons mark others =>
      obtain ⟨-, -, hlower, hupper⟩ := hrest mark rfl
      unfold readExponent
      dsimp only
      rw [if_neg (not_or.mpr ⟨hlower, hupper⟩)]

/-- The digits of an exponent, two at least, are worth its size. -/
private theorem exponent_digits (size : Nat) :
    ∃ padded, (if (Nat.toDigits 10 size).length < 2 then '0' :: Nat.toDigits 10 size
        else Nat.toDigits 10 size) = padded ∧
      AllDigits padded ∧ padded ≠ [] ∧ digitsValue padded = size := by
  split
  · refine ⟨_, rfl, .cons rfl (allDigits_toDigits size), List.cons_ne_nil _ _, ?_⟩
    have h := digitsValue_append (List.replicate 1 '0') (Nat.toDigits 10 size)
    rw [digitsValue_replicate_zero, Nat.zero_mul, Nat.zero_add, digitsValue_toDigits] at h
    exact h
  · exact ⟨_, rfl, allDigits_toDigits size, Nat.toDigits_ne_nil, digitsValue_toDigits size⟩

/-- An exponent is read with its sign and to its end. -/
theorem readExponent_append (exponent : Int) (hrest : EndsDigits rest) :
    readExponent ('e' :: (Layout.exponentText exponent ++ rest)) = some (exponent, rest) := by
  obtain ⟨padded, hpadded, hall, hnonempty, hvalue⟩ := exponent_digits exponent.natAbs
  unfold readExponent Layout.exponentText
  dsimp only
  rw [if_pos (Or.inl rfl), hpadded]
  by_cases hnegative : exponent < 0
  · simp only [hnegative, if_true, List.cons_append, splitSign, takeWhile_digits hall hrest,
      dropWhile_digits hall hrest, hvalue]
    congr 2
    omega
  · simp only [hnegative, if_false, List.cons_append, splitSign, takeWhile_digits hall hrest,
      dropWhile_digits hall hrest, hvalue]
    congr 2
    simp only [Bool.false_eq_true, if_false]
    omega

/-! ### Numbers -/

/-- A text that spells a decimal is read to the double of that decimal. -/
theorem readUnsigned_spells {text : List Char} {decimal : Decimal} (negative : Bool)
    (hspells : Spells text decimal) (hrest : EndsNumeral rest) :
    readUnsigned negative (text ++ rest) =
      .ok (.float (decimal.toDouble negative), rest) := by
  have hpoint {others : List Char} : EndsDigits ('.' :: others) := endsDigits_cons rfl
  have hmark {others : List Char} : EndsDigits ('e' :: others) := endsDigits_cons rfl
  unfold readUnsigned
  cases hspells with
  | pointed hwhole hfraction hnonempty =>
      rw [List.append_assoc, List.cons_append, readWhole_append hwhole hpoint]
      simp only [readFraction_append hfraction hnonempty hrest.digits, readExponent_none hrest]
  | scaled exponent hwhole hfraction hnonempty =>
      rw [List.append_assoc, List.cons_append, List.append_assoc, List.cons_append,
        readWhole_append hwhole hpoint]
      simp only [readFraction_append hfraction hnonempty hmark,
        readExponent_append exponent hrest.digits]
  | scaledWhole exponent hwhole =>
      have hnone : readFraction ('e' :: (Layout.exponentText exponent ++ rest)) = none :=
        readFraction_none (by simp)
      rw [List.append_assoc, List.cons_append, readWhole_append hwhole hmark]
      simp only [hnone, readExponent_append exponent hrest.digits]

/-- Digits alone are read to an integer, if they are not too many. -/
theorem readUnsigned_whole (negative : Bool) (hwhole : WholeDigits digits)
    (hrest : EndsNumeral rest) :
    readUnsigned negative (digits ++ rest) =
      (readInteger negative digits).map fun value => (.int value, rest) := by
  have hnone : readFraction rest = none :=
    readFraction_none fun c hmem => (hrest c hmem).2.1
  unfold readUnsigned
  rw [readWhole_append hwhole hrest.digits]
  simp only [hnone, readExponent_none hrest]
  cases readInteger negative digits with
  | error fault => rfl
  | ok value => rfl

/-- In front of a digit only a minus sign is taken off. -/
theorem readNumber_withSign (negative : Bool) {digit : Char} {text : List Char}
    (hdigit : digit.isDigit = true) :
    readNumber (withSign negative (digit :: text)) = readUnsigned negative (digit :: text) := by
  have hdifferent {c : Char} (hc : c.isDigit = false) : digit ≠ c := by
    intro h
    rw [h, hc] at hdigit
    exact absurd hdigit Bool.false_ne_true
  cases negative with
  | false =>
      unfold readNumber
      split
      · exact absurd (List.cons.inj ‹_›).1 (hdifferent rfl)
      · exact absurd (List.cons.inj ‹_›).1 (hdifferent rfl)
      · exact absurd (List.cons.inj ‹_›).1 (hdifferent rfl)
      · exact absurd (List.cons.inj ‹_›).1 (hdifferent rfl)
      · rfl
  | true =>
      unfold readNumber
      split
      · exact absurd (List.cons.inj ‹_›).1 (by decide)
      · exact absurd (List.cons.inj ‹_›).1 (by decide)
      · exact absurd (List.cons.inj (List.cons.inj ‹_›).2).1 (hdifferent rfl)
      · rename_i others _ heq
        rw [← (List.cons.inj heq).2]
      · rename_i hno
        exact absurd rfl (hno (digit :: text))

theorem withSign_append (negative : Bool) (text rest : List Char) :
    withSign negative text ++ rest = withSign negative (text ++ rest) := by
  cases negative with
  | false => rfl
  | true => rfl

/-- A text that spells a decimal starts with a digit. -/
theorem spells_lead {text : List Char} {decimal : Decimal} (hspells : Spells text decimal) :
    ∃ digit others, text = digit :: others ∧ digit.isDigit = true := by
  have hfirst {whole : List Char} (hwhole : WholeDigits whole) (behind : List Char) :
      ∃ digit others, whole ++ behind = digit :: others ∧ digit.isDigit = true := by
    cases whole with
    | nil => exact absurd rfl hwhole.nonempty
    | cons digit others => exact ⟨digit, others ++ behind, rfl, hwhole.all _ List.mem_cons_self⟩
  cases hspells with
  | pointed hwhole _ _ => exact hfirst hwhole _
  | scaled _ hwhole _ _ => exact hfirst hwhole _
  | scaledWhole _ hwhole => exact hfirst hwhole _

/-- A written double is read back, whatever ends it. -/
theorem readNumber_float (value : Double) (hrest : EndsNumeral rest) :
    readNumber (writeNumber (.float value) ++ rest) = .ok (.float value, rest) := by
  cases value with
  | nan => rfl
  | infinite negative =>
      cases negative with
      | false => rfl
      | true => rfl
  | finite negative size =>
      obtain ⟨spelled, hspells, hsize⟩ := Layout.plain_spells size.shortest
      obtain ⟨digit, others, htext, hdigit⟩ := spells_lead hspells
      have hread := readUnsigned_spells negative hspells hrest
      change readNumber (withSign negative (Layout.plain.write size.shortest) ++ rest) = _
      rw [withSign_append]
      rw [htext, List.cons_append] at hread ⊢
      rw [readNumber_withSign negative hdigit, hread, Decimal.toDouble_congr negative hsize,
        Magnitude.shortest_toDouble]

/-- A written integer is read as its sign and its digits say. -/
theorem readNumber_int (value : Int) (hrest : EndsNumeral rest) :
    readNumber (writeNumber (.int value) ++ rest) =
      (readInteger (decide (value < 0)) (Nat.toDigits 10 value.natAbs)).map
        fun value => (.int value, rest) := by
  have hwhole := wholeDigits_toDigits value.natAbs
  have hread := readUnsigned_whole (decide (value < 0)) hwhole hrest
  change readNumber (withSign (decide (value < 0)) (Nat.toDigits 10 value.natAbs) ++ rest) = _
  rw [withSign_append]
  cases hdigits : Nat.toDigits 10 value.natAbs with
  | nil => exact absurd hdigits Nat.toDigits_ne_nil
  | cons digit others =>
      rw [hdigits] at hread hwhole
      rw [List.cons_append] at hread ⊢
      rw [readNumber_withSign _ (hwhole.all digit List.mem_cons_self), hread]

/-- A written integer with digits that are not too many is read back. -/
theorem readNumber_int_of_length {value : Int}
    (hlength : (Nat.toDigits 10 value.natAbs).length ≤ maxDigits) (hrest : EndsNumeral rest) :
    readNumber (writeNumber (.int value) ++ rest) = .ok (.int value, rest) := by
  rw [readNumber_int value hrest]
  unfold readInteger
  rw [if_neg (by omega), digitsValue_toDigits]
  by_cases hnegative : value < 0
  · simp only [hnegative, decide_true, if_true, Except.map]
    congr 3
    omega
  · simp only [hnegative, decide_false, Bool.false_eq_true, if_false, Except.map]
    congr 3
    omega

/-- No integer is read as a double. -/
private theorem readNumber_int_ne_float (value : Int) (double : Double)
    {others : List Char} (hrest : EndsNumeral rest) :
    readNumber (writeNumber (.int value) ++ rest) ≠ .ok (.float double, others) := by
  rw [readNumber_int value hrest]
  cases readInteger (decide (value < 0)) (Nat.toDigits 10 value.natAbs) with
  | error fault =>
      intro h
      cases h
  | ok value =>
      intro h
      cases h

/-- In front of digits a sign is told from its absence. -/
private theorem withSign_inj {first second : Bool} {firstText secondText : List Char}
    {x y : Nat}
    (htext : withSign first (Nat.toDigits 10 x ++ firstText) =
      withSign second (Nat.toDigits 10 y ++ secondText)) :
    first = second ∧ Nat.toDigits 10 x ++ firstText = Nat.toDigits 10 y ++ secondText := by
  have hdiffers (z : Nat) (front back : List Char) :
      '-' :: front ≠ Nat.toDigits 10 z ++ back := by
    intro h
    cases hdigits : Nat.toDigits 10 z with
    | nil => exact absurd hdigits Nat.toDigits_ne_nil
    | cons digit others =>
        rw [hdigits] at h
        have hdigit := allDigits_toDigits z digit (hdigits ▸ List.mem_cons_self)
        rw [← (List.cons.inj h).1] at hdigit
        exact absurd hdigit (by decide)
  cases first with
  | false =>
      cases second with
      | false => exact ⟨rfl, htext⟩
      | true => exact absurd htext.symm (hdiffers x _ _)
  | true =>
      cases second with
      | false => exact absurd htext (hdiffers y _ _)
      | true => exact ⟨rfl, (List.cons.inj htext).2⟩

variable {firstRest secondRest : List Char}

/-- A written integer determines the integer and the rest, however long it is: the
digits are compared as runs, since the reader refuses integers that are too long. -/
private theorem writeInt_append_inj {first second : Int}
    (htext : writeNumber (.int first) ++ firstRest = writeNumber (.int second) ++ secondRest)
    (hfirst : EndsNumeral firstRest) (hsecond : EndsNumeral secondRest) :
    first = second ∧ firstRest = secondRest := by
  change withSign (decide (first < 0)) (Nat.toDigits 10 first.natAbs) ++ firstRest =
    withSign (decide (second < 0)) (Nat.toDigits 10 second.natAbs) ++ secondRest at htext
  rw [withSign_append, withSign_append] at htext
  obtain ⟨hsign, hdigits⟩ := withSign_inj htext
  have hread := readWhole_append (wholeDigits_toDigits first.natAbs) hfirst.digits
  rw [hdigits, readWhole_append (wholeDigits_toDigits second.natAbs) hsecond.digits] at hread
  obtain ⟨hsame, hrests⟩ := Prod.mk.inj (Option.some.inj hread)
  have hsize := congrArg digitsValue hsame
  rw [digitsValue_toDigits, digitsValue_toDigits] at hsize
  have hnegative := decide_eq_decide.mp hsign
  exact ⟨by omega, hrests.symm⟩

/-- A written number determines the number and the rest. -/
theorem writeNumber_append_inj {first second : Number}
    (htext : writeNumber first ++ firstRest = writeNumber second ++ secondRest)
    (hfirst : EndsNumeral firstRest) (hsecond : EndsNumeral secondRest) :
    first = second ∧ firstRest = secondRest := by
  cases first with
  | int x =>
      cases second with
      | int y =>
          obtain ⟨hvalue, hrests⟩ := writeInt_append_inj htext hfirst hsecond
          exact ⟨congrArg Number.int hvalue, hrests⟩
      | float y =>
          have hread := readNumber_float y hsecond
          rw [← htext] at hread
          exact absurd hread (readNumber_int_ne_float x y hfirst)
  | float x =>
      have hread := readNumber_float x hfirst
      cases second with
      | int y =>
          rw [htext] at hread
          exact absurd hread (readNumber_int_ne_float y x hsecond)
      | float y =>
          rw [htext, readNumber_float y hsecond] at hread
          obtain ⟨hvalue, hrests⟩ := Prod.mk.inj (Except.ok.inj hread)
          exact ⟨hvalue.symm, hrests.symm⟩

end Json

end SkillTiers
