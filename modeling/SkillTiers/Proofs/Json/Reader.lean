/-
# Reading values back

The reader takes a written value off the front of a text and gives it back
(`readValue_write`), provided that no object has a key twice and that the reader
allows the value at all: it refuses integers of too many digits, and arrays and
objects for which there is no room. `Json.allow` says which values these are and how
each is refused, so that reading back is described for every value (`parse_text`).
-/

import SkillTiers.Json.Room
import SkillTiers.Proofs.Json.SortKeys
import SkillTiers.Proofs.Json.Writer

namespace SkillTiers

namespace Json

mutual

/-- Each object in the value has each key once. -/
def KeysOnce : Json → Prop
  | .array items => AllKeysOnce items
  | .object fields => (keys fields).Nodup ∧ FieldsKeysOnce fields
  | _ => True

/-- `KeysOnce` for each item. -/
def AllKeysOnce : List Json → Prop
  | [] => True
  | item :: rest => KeysOnce item ∧ AllKeysOnce rest

/-- `KeysOnce` for the value of each field. -/
def FieldsKeysOnce : List (String × Json) → Prop
  | [] => True
  | (_, value) :: rest => KeysOnce value ∧ FieldsKeysOnce rest

end

theorem allKeysOnce_iff (items : List Json) :
    AllKeysOnce items ↔ ∀ item ∈ items, KeysOnce item := by
  induction items with
  | nil => simp [AllKeysOnce]
  | cons item rest ih => rw [AllKeysOnce, ih, List.forall_mem_cons]

theorem fieldsKeysOnce_iff (fields : List (String × Json)) :
    FieldsKeysOnce fields ↔ ∀ field ∈ fields, KeysOnce field.2 := by
  induction fields with
  | nil => simp [FieldsKeysOnce]
  | cons field rest ih => rw [FieldsKeysOnce, ih, List.forall_mem_cons]

/-- One check after another is passed just if both are. -/
private theorem check_then_ok_iff {first second : Except ReadError Unit} :
    (do first; second) = .ok () ↔ first = .ok () ∧ second = .ok () := by
  cases first with
  | error fault => simp [bind, Except.bind]
  | ok _ => exact (and_iff_right rfl).symm

/-- Items are allowed just if each of them is. -/
theorem allowItems_ok_iff {room : Nat} {items : List Json} :
    allowItems room items = .ok () ↔ ∀ item ∈ items, allow room item = .ok () := by
  induction items with
  | nil => simp [allowItems]
  | cons item rest ih => rw [allowItems, check_then_ok_iff, ih, List.forall_mem_cons]

/-- Fields are allowed just if the value of each of them is. -/
theorem allowFields_ok_iff {room : Nat} {fields : List (String × Json)} :
    allowFields room fields = .ok () ↔ ∀ field ∈ fields, allow room field.2 = .ok () := by
  induction fields with
  | nil => simp [allowFields]
  | cons field rest ih => rw [allowFields, check_then_ok_iff, ih, List.forall_mem_cons]

/-- The value is no array and no object, and no integer of too many digits. -/
def IsPlain (value : Json) : Prop :=
  allow 0 value = .ok ()

theorem IsPlain.keysOnce {value : Json} (hplain : IsPlain value) : KeysOnce value := by
  cases value with
  | array items => simp [IsPlain, allow] at hplain
  | object fields => simp [IsPlain, allow] at hplain
  | _ => simp [KeysOnce]

/-- A plain value needs no room. -/
theorem IsPlain.allow {value : Json} (hplain : IsPlain value) (room : Nat) :
    value.allow room = .ok () := by
  unfold IsPlain at hplain
  cases value with
  | array items => simp [Json.allow] at hplain
  | object fields => simp [Json.allow] at hplain
  | number number =>
      cases number with
      | int value => rwa [Json.allow] at hplain ⊢
      | float value => simp [Json.allow]
  | _ => simp [Json.allow]

/-! ### Objects with each key once -/

/-- Fields with each key once are merged to themselves. -/
theorem mergeFields_of_nodup {fields : List (String × Json)} (hkeys : (keys fields).Nodup) :
    mergeFields fields = fields := by
  have hfold (front back : List (String × Json)) (hnodup : (keys (front ++ back)).Nodup) :
      back.foldl (fun merged field => setField merged field.1 field.2) front = front ++ back := by
    induction back generalizing front with
    | nil => simp
    | cons field rest ih =>
        have hnew : front.any (·.1 == field.1) = false := by
          rw [List.any_eq_false]
          intro other hmem
          unfold keys at hnodup
          rw [List.map_append, List.nodup_append] at hnodup
          rw [beq_iff_eq]
          exact hnodup.2.2 _ (List.mem_map_of_mem hmem) _ List.mem_cons_self
        rw [List.foldl_cons, setField, hnew, if_neg Bool.false_ne_true,
          ih _ (by simpa using hnodup), List.append_assoc, List.singleton_append]
  exact hfold [] fields hkeys

/-! ### White space -/

/-- Nothing is skipped where no white space stands. -/
theorem skipSpace_cons {c : Char} {rest : List Char}
    (hspace : (c == ' ' || c == '\t' || c == '\n' || c == '\r') = false) :
    skipSpace (c :: rest) = c :: rest := by
  unfold skipSpace
  rw [List.dropWhile_cons, hspace, if_neg Bool.false_ne_true]

theorem skipSpace_blank (rest : List Char) : skipSpace (' ' :: rest) = skipSpace rest := by
  simp [skipSpace]

/-- A character that a value can start with is no white space and closes nothing. -/
private theorem starts_of_leadOf {c : Char} (hlead : leadOf c ≠ .none) :
    (c == ' ' || c == '\t' || c == '\n' || c == '\r') = false ∧ c ≠ ']' ∧ c ≠ '}' := by
  have hdiffer {other : Char} (hother : leadOf other = .none) : c ≠ other :=
    fun h => hlead (h ▸ hother)
  have hspace : c ≠ ' ' ∧ c ≠ '\t' ∧ c ≠ '\n' ∧ c ≠ '\r' :=
    ⟨hdiffer rfl, hdiffer rfl, hdiffer rfl, hdiffer rfl⟩
  exact ⟨by simp [hspace], hdiffer rfl, hdiffer rfl⟩

/-- A written value starts with a character that no white space is. -/
private theorem write_starts (value : Json) :
    ∃ c others, write value = c :: others ∧ leadOf c = value.lead ∧ leadOf c ≠ .none := by
  obtain ⟨c, others, htext, hc⟩ := write_lead value
  refine ⟨c, others, htext, hc, ?_⟩
  rw [hc]
  cases value with
  | bool value => cases value <;> simp [lead]
  | _ => simp [lead]

/-- No white space stands in front of a written value. -/
theorem skipSpace_write (value : Json) (rest : List Char) :
    skipSpace (write value ++ rest) = write value ++ rest := by
  obtain ⟨c, others, htext, -, hc⟩ := write_starts value
  rw [htext, List.cons_append, skipSpace_cons (starts_of_leadOf hc).1]

theorem skipSpace_writeString (text : String) (rest : List Char) :
    skipSpace (writeString text ++ rest) = writeString text ++ rest :=
  skipSpace_cons rfl

theorem skipSpace_writeItems (items : List Json) (rest : List Char) :
    skipSpace (writeItems items ++ rest) = writeItems items ++ rest := by
  cases items with
  | nil => exact skipSpace_cons rfl
  | cons item others =>
      rw [writeItems]
      exact skipSpace_cons rfl

theorem skipSpace_writeFields (fields : List (String × Json)) (rest : List Char) :
    skipSpace (writeFields fields ++ rest) = writeFields fields ++ rest := by
  cases fields with
  | nil => exact skipSpace_cons rfl
  | cons field others =>
      rw [writeFields]
      exact skipSpace_cons rfl

/-! ### Numbers -/

/-- A written number is read back if the reader allows it. -/
private theorem readNumber_write (value : Number) (room : Nat) {rest : List Char}
    (hrest : EndsNumeral rest) :
    readNumber (writeNumber value ++ rest) =
      (allow room (.number value)).map fun _ => (value, rest) := by
  cases value with
  | float value =>
      rw [readNumber_float value hrest]
      simp [allow, Except.map]
  | int value =>
      rw [allow, allowInteger]
      by_cases hlength : Numeral.maxDigits < (Nat.toDigits 10 value.natAbs).length
      · rw [readNumber_int value hrest, readInteger, if_pos hlength, if_pos hlength]
        rfl
      · rw [readNumber_int_of_length (Nat.not_lt.mp hlength) hrest, if_neg hlength]
        rfl

/-- Where a number starts, a number is read. -/
private theorem readValue_number {c : Char} (hc : leadOf c = .number) (fuel room : Nat)
    (rest : List Char) :
    readValue (fuel + 1) room (c :: rest) =
      (readNumber (c :: rest)).map fun read => (.number read.1, read.2) := by
  have hdiffer {other : Char} (hother : leadOf other ≠ .number) : c ≠ other :=
    fun h => hother (h ▸ hc)
  rw [readValue]
  · cases readNumber (c :: rest) with
    | error fault => rfl
    | ok read => rfl
  all_goals
    intro _ h
    exact absurd (List.cons.inj h).1 (hdiffer (by decide))

/-! ### Values -/

/-- Behind the opening bracket of an array with items, the items are read. -/
private theorem readValue_array (fuel room : Nat) (item : Json) (rest : List Char) :
    readValue (fuel + 1) room ('[' :: (write item ++ rest)) =
      if room = 0 then .error (.tooDeep false)
      else (readItems fuel (room - 1) (write item ++ rest)).map
        fun read => (.array read.1, read.2) := by
  obtain ⟨c, others, htext, -, hc⟩ := write_starts item
  rw [readValue, skipSpace_write, htext, List.cons_append]
  split
  · rfl
  · split
    · rename_i h
      exact absurd (List.cons.inj h).1 (starts_of_leadOf hc).2.1
    · cases readItems fuel (room - 1) (c :: (others ++ rest)) with
      | error fault => rfl
      | ok read => rfl

/-- Behind the opening brace of an object with fields, the fields are read. -/
private theorem readValue_object (fuel room : Nat) (key : String) (rest : List Char) :
    readValue (fuel + 1) room ('{' :: (writeString key ++ rest)) =
      if room = 0 then .error (.tooDeep true)
      else (readFields fuel (room - 1) (writeString key ++ rest)).map
        fun read => (.object (mergeFields read.1), read.2) := by
  rw [readValue, skipSpace_writeString]
  unfold writeString
  split
  · rfl
  · rw [List.cons_append]
    split
    · rename_i h
      exact absurd (List.cons.inj h).1 (by decide)
    · generalize readFields fuel (room - 1) _ = read
      cases read with
      | error fault => rfl
      | ok read => rfl

mutual

/-- A written value is taken off the front of a text and given back, if the reader
allows it; each step of the reader takes a character. -/
theorem readValue_write : ∀ (value : Json) {fuel : Nat} (room : Nat) {rest : List Char},
    KeysOnce value → (write value).length < fuel → EndsNumeral rest →
      readValue fuel room (write value ++ rest) =
        (allow room value).map fun _ => (value, rest)
  | value, 0, _, _, _, hfuel, _ => absurd hfuel (Nat.not_lt_zero _)
  | .null, fuel + 1, room, rest, _, _, _ => by simp [write, readValue, allow, Except.map]
  | .bool true, fuel + 1, room, rest, _, _, _ => by simp [write, readValue, allow, Except.map]
  | .bool false, fuel + 1, room, rest, _, _, _ => by simp [write, readValue, allow, Except.map]
  | .number value, fuel + 1, room, rest, _, _, hrest => by
      obtain ⟨c, others, htext, hc⟩ := write_lead (.number value)
      have hread := readNumber_write value room hrest
      rw [write] at htext ⊢
      rw [htext, List.cons_append] at hread ⊢
      rw [readValue_number hc, hread]
      cases allow room (.number value) with
      | error fault => rfl
      | ok _ => rfl
  | .string text, fuel + 1, room, rest, _, _, _ => by
      have hread := readString_append text rest
      rw [write, writeString]
      simp only [List.cons_append, List.append_assoc, List.nil_append]
      rw [readValue, hread]
      simp [allow, Except.map, bind, Except.bind, pure, Except.pure]
  | .array [], fuel + 1, room, rest, _, _, _ => by
      rw [write, allow, List.cons_append, readValue, List.singleton_append,
        skipSpace_cons (by decide)]
      split
      · rfl
      · rfl
  | .array (item :: others), fuel + 1, room, rest, hkeys, hfuel, _ => by
      rw [KeysOnce, AllKeysOnce] at hkeys
      rw [write, List.length_cons] at hfuel
      rw [write, allow, List.cons_append, List.append_assoc, readValue_array,
        readItems_write item others (room - 1) hkeys.1 hkeys.2 (by simpa using hfuel)]
      split
      · rfl
      · cases allowItems (room - 1) (item :: others) with
        | error fault => rfl
        | ok _ => rfl
  | .object [], fuel + 1, room, rest, _, _, _ => by
      rw [write, allow, List.cons_append, readValue, List.singleton_append,
        skipSpace_cons (by decide)]
      split
      · rfl
      · rfl
  | .object ((key, value) :: others), fuel + 1, room, rest, hkeys, hfuel, _ => by
      rw [KeysOnce, FieldsKeysOnce] at hkeys
      rw [write, List.length_cons] at hfuel
      rw [write, allow, List.cons_append, List.append_assoc, readValue_object]
      simp only [List.cons_append, List.append_assoc]
      rw [readFields_write key value others (room - 1) hkeys.2.1 hkeys.2.2 (by simpa using hfuel)]
      split
      · rfl
      · cases allowFields (room - 1) ((key, value) :: others) with
        | error fault => rfl
        | ok _ =>
            simp only [Except.map]
            rw [mergeFields_of_nodup hkeys.1]

/-- Written items are taken off the front of a text up to their closing bracket. -/
theorem readItems_write : ∀ (item : Json) (others : List Json) {fuel : Nat} (room : Nat)
    {rest : List Char}, KeysOnce item → AllKeysOnce others →
      (write item ++ writeItems others).length < fuel →
        readItems fuel room (write item ++ (writeItems others ++ rest)) =
          (allowItems room (item :: others)).map fun _ => (item :: others, rest)
  | item, others, 0, _, _, _, _, hfuel => absurd hfuel (Nat.not_lt_zero _)
  | item, [], fuel + 1, room, rest, hitem, _, hfuel => by
      rw [List.length_append, writeItems, List.length_singleton] at hfuel
      rw [readItems, readValue_write item room hitem (by omega) (endsNumeral_writeItems [] rest),
        allowItems, allowItems]
      cases allow room item with
      | error fault => rfl
      | ok _ =>
          simp only [Except.map, bind, Except.bind]
          rw [skipSpace_writeItems, writeItems]
          rfl
  | item, next :: others, fuel + 1, room, rest, hitem, hothers, hfuel => by
      rw [AllKeysOnce] at hothers
      rw [List.length_append, writeItems, List.length_cons, List.length_cons] at hfuel
      have hends := endsNumeral_writeItems (next :: others) rest
      rw [readItems, readValue_write item room hitem (by omega) hends, allowItems]
      cases allow room item with
      | error fault => rfl
      | ok _ =>
          simp only [Except.map, bind, Except.bind]
          rw [skipSpace_writeItems, writeItems]
          simp only [List.cons_append, List.append_assoc]
          rw [skipSpace_blank, skipSpace_write,
            readItems_write next others room hothers.1 hothers.2 (by omega)]
          cases allowItems room (next :: others) with
          | error fault => rfl
          | ok _ => rfl

/-- Written fields are taken off the front of a text up to their closing brace. -/
theorem readFields_write : ∀ (key : String) (value : Json) (others : List (String × Json))
    {fuel : Nat} (room : Nat) {rest : List Char}, KeysOnce value → FieldsKeysOnce others →
      (writeString key ++ ':' :: ' ' :: (write value ++ writeFields others)).length < fuel →
        readFields fuel room
            (writeString key ++ ':' :: ' ' :: (write value ++ (writeFields others ++ rest))) =
          (allowFields room ((key, value) :: others)).map fun _ => ((key, value) :: others, rest)
  | key, value, others, 0, _, _, _, _, hfuel => absurd hfuel (Nat.not_lt_zero _)
  | key, value, [], fuel + 1, room, rest, hvalue, _, hfuel => by
      have hread := readString_append key
        (':' :: ' ' :: (write value ++ (writeFields [] ++ rest)))
      have hends := endsNumeral_writeFields [] rest
      simp only [writeString, List.length_cons, List.length_append] at hfuel
      simp only [writeString, List.cons_append, List.append_assoc, List.nil_append]
      rw [readFields, hread]
      simp only [bind, Except.bind]
      rw [skipSpace_cons (by decide)]
      simp only
      rw [skipSpace_blank, skipSpace_write,
        readValue_write value room hvalue (by omega) hends, allowFields, allowFields]
      cases allow room value with
      | error fault => rfl
      | ok _ =>
          simp only [Except.map, bind, Except.bind]
          rw [skipSpace_writeFields, writeFields]
          rfl
  | key, value, (next, other) :: others, fuel + 1, room, rest, hvalue, hothers, hfuel => by
      rw [FieldsKeysOnce] at hothers
      have hread := readString_append key
        (':' :: ' ' :: (write value ++ (writeFields ((next, other) :: others) ++ rest)))
      have hends := endsNumeral_writeFields ((next, other) :: others) rest
      rw [writeFields] at hfuel
      simp only [writeString, List.length_cons, List.length_append] at hfuel
      simp only [writeString, List.cons_append, List.append_assoc, List.nil_append]
      rw [readFields, hread]
      simp only [bind, Except.bind]
      rw [skipSpace_cons (by decide)]
      simp only
      rw [skipSpace_blank, skipSpace_write,
        readValue_write value room hvalue (by omega) hends, allowFields]
      cases allow room value with
      | error fault => rfl
      | ok _ =>
          simp only [Except.map, bind, Except.bind]
          rw [skipSpace_writeFields, writeFields]
          simp only [List.cons_append, List.append_assoc]
          rw [skipSpace_blank, skipSpace_writeString,
            readFields_write next other others room hothers.1 hothers.2
              (by simp only [writeString, List.length_cons, List.length_append]; omega)]
          cases allowFields room ((next, other) :: others) with
          | error fault => rfl
          | ok _ => rfl

end

/-- The text of a value with each key once spells that value, if a reader allows it. -/
theorem parse_text {value : Json} (hkeys : KeysOnce value) :
    parse value.text = (allow maxRoom value).map fun _ => value := by
  have hread := readValue_write value maxRoom hkeys (Nat.lt_succ_self _) endsNumeral_nil
  have hspace := skipSpace_write value []
  rw [List.append_nil] at hread hspace
  unfold parse parseWithin text
  rw [String.toList_ofList]
  dsimp only
  rw [hspace, hread]
  cases allow maxRoom value with
  | error fault => rfl
  | ok _ => rfl

end Json

end SkillTiers
