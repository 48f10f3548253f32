/-
# Written values determine the value

Two values with one text are equal (`write_inj`). The proof compares the texts from
the front: the first character tells what kind of value is written, and each part
of a value ends where its own text says, so the text behind a value is determined
too (`write_append_inj`).
-/

import SkillTiers.Proofs.Json.Numeral
import SkillTiers.Proofs.Json.Text

namespace SkillTiers

namespace Json

/-- What the first character of a written value tells. -/
inductive Lead where
  | null
  | truth
  | falsity
  | number
  | string
  | array
  | object
  /-- No value starts so. -/
  | none
deriving DecidableEq

/-- The kind of value that is written with this character first. -/
def leadOf (c : Char) : Lead :=
  if c = 'n' then .null
  else if c = 't' then .truth
  else if c = 'f' then .falsity
  else if c = '"' then .string
  else if c = '[' then .array
  else if c = '{' then .object
  else if c.isDigit = true ∨ c = '-' ∨ c = 'N' ∨ c = 'I' then .number
  else .none

/-- What the first character of a value will tell. -/
def lead : Json → Lead
  | .null => .null
  | .bool true => .truth
  | .bool false => .falsity
  | .number _ => .number
  | .string _ => .string
  | .array _ => .array
  | .object _ => .object

/-- A digit in front tells of a number. -/
private theorem leadOf_digit {c : Char} (hdigit : c.isDigit = true) : leadOf c = .number := by
  have hdifferent {other : Char} (hother : other.isDigit = false) : c ≠ other := by
    intro h
    rw [h, hother] at hdigit
    exact absurd hdigit Bool.false_ne_true
  unfold leadOf
  rw [if_neg (hdifferent rfl), if_neg (hdifferent rfl), if_neg (hdifferent rfl),
    if_neg (hdifferent rfl), if_neg (hdifferent rfl), if_neg (hdifferent rfl),
    if_pos (Or.inl hdigit)]

/-- A sign in front of a digit tells of a number, and so does the digit. -/
private theorem withSign_lead (negative : Bool) {digit : Char} (rest : List Char)
    (hdigit : digit.isDigit = true) :
    ∃ c others, withSign negative (digit :: rest) = c :: others ∧ leadOf c = .number := by
  cases negative with
  | false => exact ⟨digit, rest, rfl, leadOf_digit hdigit⟩
  | true => exact ⟨'-', digit :: rest, rfl, rfl⟩

/-- The first character of a number tells of a number. -/
private theorem writeNumber_lead (value : Number) :
    ∃ c others, writeNumber value = c :: others ∧ leadOf c = .number := by
  cases value with
  | int value =>
      change ∃ c others, withSign _ (Nat.toDigits 10 value.natAbs) = c :: others ∧ _
      cases hdigits : Nat.toDigits 10 value.natAbs with
      | nil => exact absurd hdigits Nat.toDigits_ne_nil
      | cons digit others =>
          have hmem : digit ∈ Nat.toDigits 10 value.natAbs := hdigits ▸ List.mem_cons_self
          exact withSign_lead _ others (Numeral.allDigits_toDigits value.natAbs digit hmem)
  | float value =>
      cases value with
      | nan => exact ⟨'N', ['a', 'N'], rfl, rfl⟩
      | infinite negative =>
          cases negative with
          | false => exact ⟨_, _, rfl, rfl⟩
          | true => exact ⟨_, _, rfl, rfl⟩
      | finite negative size =>
          obtain ⟨spelled, hspells, -⟩ := Layout.plain_spells size.shortest
          obtain ⟨digit, others, htext, hdigit⟩ := spells_lead hspells
          change ∃ c others, withSign negative (Layout.plain.write size.shortest) = c :: others ∧ _
          rw [htext]
          exact withSign_lead negative others hdigit

/-- The first character of a written value tells its kind. -/
theorem write_lead (value : Json) :
    ∃ c others, write value = c :: others ∧ leadOf c = value.lead := by
  cases value with
  | null => exact ⟨_, _, by rw [write], rfl⟩
  | bool value =>
      cases value with
      | true => exact ⟨_, _, by rw [write], rfl⟩
      | false => exact ⟨_, _, by rw [write], rfl⟩
  | number value =>
      rw [write]
      exact writeNumber_lead value
  | string text =>
      rw [write]
      exact ⟨_, _, rfl, rfl⟩
  | array items =>
      cases items with
      | nil => exact ⟨_, _, by rw [write], rfl⟩
      | cons item rest => exact ⟨_, _, by rw [write], rfl⟩
  | object fields =>
      cases fields with
      | nil => exact ⟨_, _, by rw [write], rfl⟩
      | cons field rest => exact ⟨_, _, by rw [write], rfl⟩

/-- Texts that start alike are of one kind. -/
theorem lead_eq_of_append {first second : Json} {firstRest secondRest : List Char}
    (htext : write first ++ firstRest = write second ++ secondRest) :
    first.lead = second.lead := by
  obtain ⟨c, _, hfirst, hc⟩ := write_lead first
  obtain ⟨d, _, hsecond, hd⟩ := write_lead second
  rw [hfirst, hsecond] at htext
  rw [← hc, ← hd, (List.cons.inj htext).1]

/-- Behind an item comes a comma or a bracket, and neither continues a numeral. -/
theorem endsNumeral_writeItems (items : List Json) (rest : List Char) :
    EndsNumeral (writeItems items ++ rest) := by
  cases items with
  | nil => exact endsNumeral_cons (by decide)
  | cons item others =>
      rw [writeItems]
      exact endsNumeral_cons (by decide)

/-- Behind a field comes a comma or a brace, and neither continues a numeral. -/
theorem endsNumeral_writeFields (fields : List (String × Json)) (rest : List Char) :
    EndsNumeral (writeFields fields ++ rest) := by
  cases fields with
  | nil => exact endsNumeral_cons (by decide)
  | cons field others =>
      rw [writeFields]
      exact endsNumeral_cons (by decide)

/-- The text of an array does not end at once unless the array is empty. -/
private theorem write_ne_bracket (item : Json) (behind : List Char) {close : Char}
    {rest : List Char} (hclose : leadOf close = .none) :
    write item ++ behind ≠ close :: rest := by
  obtain ⟨c, others, hitem, hc⟩ := write_lead item
  intro h
  rw [hitem, List.cons_append] at h
  rw [(List.cons.inj h).1, hclose] at hc
  cases item with
  | bool value => cases value <;> exact absurd hc (by decide)
  | _ => exact absurd hc (by simp [lead])

mutual

/-- A written value determines the value and the text behind it. -/
theorem write_append_inj : ∀ (first second : Json) {firstRest secondRest : List Char},
    EndsNumeral firstRest → EndsNumeral secondRest →
      write first ++ firstRest = write second ++ secondRest →
        first = second ∧ firstRest = secondRest
  | first, .null, _, _, _, _, htext => by
      cases first with
      | null => exact ⟨rfl, List.append_cancel_left htext⟩
      | bool value => cases value <;> exact absurd (lead_eq_of_append htext) (by decide)
      | _ => exact absurd (lead_eq_of_append htext) (by simp [lead])
  | first, .bool value, _, _, _, _, htext => by
      have hlead := lead_eq_of_append htext
      cases first with
      | bool other =>
          have hvalue : other = value := by
            cases other <;> cases value <;> first | rfl | exact absurd hlead (by decide)
          subst hvalue
          exact ⟨rfl, List.append_cancel_left htext⟩
      | _ => cases value <;> exact absurd hlead (by simp [lead])
  | first, .number value, _, _, hfirst, hsecond, htext => by
      cases first with
      | number other =>
          rw [write, write] at htext
          obtain ⟨hvalue, hrests⟩ := writeNumber_append_inj htext hfirst hsecond
          exact ⟨congrArg Json.number hvalue, hrests⟩
      | bool value => cases value <;> exact absurd (lead_eq_of_append htext) (by simp [lead])
      | _ => exact absurd (lead_eq_of_append htext) (by simp [lead])
  | first, .string text, _, _, _, _, htext => by
      cases first with
      | string other =>
          rw [write, write] at htext
          obtain ⟨hvalue, hrests⟩ := writeString_append_inj htext
          exact ⟨congrArg Json.string hvalue, hrests⟩
      | bool value => cases value <;> exact absurd (lead_eq_of_append htext) (by simp [lead])
      | _ => exact absurd (lead_eq_of_append htext) (by simp [lead])
  | first, .array items, _, _, _, _, htext => by
      have hlead := lead_eq_of_append htext
      cases first with
      | array others =>
          obtain ⟨hitems, hrests⟩ := writeArray_append_inj others items htext
          exact ⟨congrArg Json.array hitems, hrests⟩
      | bool value => cases value <;> exact absurd hlead (by simp [lead])
      | _ => exact absurd hlead (by simp [lead])
  | first, .object fields, _, _, _, _, htext => by
      have hlead := lead_eq_of_append htext
      cases first with
      | object others =>
          obtain ⟨hfields, hrests⟩ := writeObject_append_inj others fields htext
          exact ⟨congrArg Json.object hfields, hrests⟩
      | bool value => cases value <;> exact absurd hlead (by simp [lead])
      | _ => exact absurd hlead (by simp [lead])

/-- A written array determines the items and the text behind it. -/
theorem writeArray_append_inj : ∀ (first second : List Json) {firstRest secondRest : List Char},
    write (.array first) ++ firstRest = write (.array second) ++ secondRest →
      first = second ∧ firstRest = secondRest
  | [], [], _, _, htext => ⟨rfl, List.append_cancel_left htext⟩
  | [], item :: others, _, _, htext => by
      rw [write, write] at htext
      simp only [List.cons_append, List.append_assoc, List.nil_append] at htext
      exact absurd (List.cons.inj htext).2.symm (write_ne_bracket item _ rfl)
  | item :: others, [], _, _, htext => by
      rw [write, write] at htext
      simp only [List.cons_append, List.append_assoc, List.nil_append] at htext
      exact absurd (List.cons.inj htext).2 (write_ne_bracket item _ rfl)
  | item :: others, item' :: others', _, _, htext => by
      rw [write, write] at htext
      simp only [List.cons_append, List.append_assoc] at htext
      obtain ⟨hitem, hrest⟩ := write_append_inj item item' (endsNumeral_writeItems others _)
        (endsNumeral_writeItems others' _) (List.cons.inj htext).2
      obtain ⟨hothers, hrests⟩ := writeItems_append_inj others others' hrest
      exact ⟨by rw [hitem, hothers], hrests⟩

/-- Written items determine the items and the text behind their bracket. -/
theorem writeItems_append_inj : ∀ (first second : List Json) {firstRest secondRest : List Char},
    writeItems first ++ firstRest = writeItems second ++ secondRest →
      first = second ∧ firstRest = secondRest
  | [], [], _, _, htext => ⟨rfl, List.append_cancel_left htext⟩
  | [], item :: others, _, _, htext => by
      rw [writeItems, writeItems] at htext
      exact absurd (List.cons.inj htext).1 (by decide)
  | item :: others, [], _, _, htext => by
      rw [writeItems, writeItems] at htext
      exact absurd (List.cons.inj htext).1 (by decide)
  | item :: others, item' :: others', _, _, htext => by
      rw [writeItems, writeItems] at htext
      simp only [List.cons_append, List.append_assoc] at htext
      obtain ⟨hitem, hrest⟩ := write_append_inj item item' (endsNumeral_writeItems others _)
        (endsNumeral_writeItems others' _) (List.cons.inj (List.cons.inj htext).2).2
      obtain ⟨hothers, hrests⟩ := writeItems_append_inj others others' hrest
      exact ⟨by rw [hitem, hothers], hrests⟩

/-- A written object determines the fields and the text behind it. -/
theorem writeObject_append_inj :
    ∀ (first second : List (String × Json)) {firstRest secondRest : List Char},
    write (.object first) ++ firstRest = write (.object second) ++ secondRest →
      first = second ∧ firstRest = secondRest
  | [], [], _, _, htext => ⟨rfl, List.append_cancel_left htext⟩
  | [], (key, value) :: others, _, _, htext => by
      rw [write, write] at htext
      exact absurd (List.cons.inj (List.cons.inj htext).2).1 (by decide)
  | (key, value) :: others, [], _, _, htext => by
      rw [write, write] at htext
      exact absurd (List.cons.inj (List.cons.inj htext).2).1 (by decide)
  | (key, value) :: others, (key', value') :: others', _, _, htext => by
      rw [write, write] at htext
      simp only [List.cons_append, List.append_assoc] at htext
      obtain ⟨hkey, hbehind⟩ := writeString_append_inj (List.cons.inj htext).2
      obtain ⟨hvalue, hrest⟩ := write_append_inj value value' (endsNumeral_writeFields others _)
        (endsNumeral_writeFields others' _) (List.cons.inj (List.cons.inj hbehind).2).2
      obtain ⟨hothers, hrests⟩ := writeFields_append_inj others others' hrest
      exact ⟨by rw [hkey, hvalue, hothers], hrests⟩

/-- Written fields determine the fields and the text behind their brace. -/
theorem writeFields_append_inj :
    ∀ (first second : List (String × Json)) {firstRest secondRest : List Char},
    writeFields first ++ firstRest = writeFields second ++ secondRest →
      first = second ∧ firstRest = secondRest
  | [], [], _, _, htext => ⟨rfl, List.append_cancel_left htext⟩
  | [], (key, value) :: others, _, _, htext => by
      rw [writeFields, writeFields] at htext
      exact absurd (List.cons.inj htext).1 (by decide)
  | (key, value) :: others, [], _, _, htext => by
      rw [writeFields, writeFields] at htext
      exact absurd (List.cons.inj htext).1 (by decide)
  | (key, value) :: others, (key', value') :: others', _, _, htext => by
      rw [writeFields, writeFields] at htext
      simp only [List.cons_append, List.append_assoc] at htext
      obtain ⟨hkey, hbehind⟩ :=
        writeString_append_inj (List.cons.inj (List.cons.inj htext).2).2
      obtain ⟨hvalue, hrest⟩ := write_append_inj value value' (endsNumeral_writeFields others _)
        (endsNumeral_writeFields others' _) (List.cons.inj (List.cons.inj hbehind).2).2
      obtain ⟨hothers, hrests⟩ := writeFields_append_inj others others' hrest
      exact ⟨by rw [hkey, hvalue, hothers], hrests⟩

end

/-- Values with one text are equal. -/
theorem write_inj {first second : Json} (htext : write first = write second) :
    first = second := by
  have h : write first ++ [] = write second ++ [] := by rw [htext]
  exact (write_append_inj first second endsNumeral_nil endsNumeral_nil h).1

end Json

end SkillTiers
