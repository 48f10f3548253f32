/-
# Sums and their texts

A sum is read term by term: the terms of two texts with a plus sign between them are those of
the first and then those of the second. The terms that are read have no plus sign in their
texts, and no blanks at the ends; these are the operands that their texts read back to
(`Operand.parse_text_iff`).
-/

import SkillTiers.Condition.Operand
import SkillTiers.Proofs.Trimming

namespace SkillTiers

/-! ### Pieces between marks -/

section Pieces

variable {mark : Char}

/-- No piece of a text that is parted at a mark holds the mark. -/
theorem mark_notMem_of_mem_splitOn {text piece : List Char} (hpiece : piece ∈ text.splitOn mark) :
    mark ∉ piece := by
  induction text generalizing piece with
  | nil =>
      rw [List.splitOn_nil, List.mem_singleton] at hpiece
      rw [hpiece]
      exact List.not_mem_nil
  | cons first rest ih =>
      obtain ⟨next, others, hrest⟩ := List.exists_cons_of_ne_nil (List.splitOn_ne_nil mark rest)
      rw [List.splitOn_cons_eq_if_modifyHead, hrest] at hpiece
      rw [hrest] at ih
      split at hpiece
      · rcases List.mem_cons.mp hpiece with rfl | hlater
        · exact List.not_mem_nil
        · exact ih hlater
      · rename_i hfirst
        rw [List.modifyHead_cons] at hpiece
        rcases List.mem_cons.mp hpiece with rfl | hlater
        · have hother : mark ≠ first := fun hsame => hfirst (beq_iff_eq.mpr hsame.symm)
          exact List.not_mem_cons_of_ne_of_not_mem hother (ih List.mem_cons_self)
        · exact ih (List.mem_cons_of_mem _ hlater)

/-- There is one piece more than there are marks. -/
theorem length_splitOn (mark : Char) (text : List Char) :
    (text.splitOn mark).length = text.count mark + 1 := by
  induction text with
  | nil => rfl
  | cons first rest ih =>
      rw [List.splitOn_cons_eq_if_modifyHead, List.count_cons]
      split
      · rw [List.length_cons, ih]
      · rw [List.length_modifyHead, ih, Nat.add_zero]

/-- Pieces that are written with blanks around the marks between them are read back without
these. -/
theorem trim_splitOn_spaced {parts : List (List Char)} (hne : parts ≠ [])
    (hparts : ∀ part ∈ parts, '+' ∉ part) :
    (([' ', '+', ' '].intercalate parts).splitOn '+').map (trimChars isBlank) =
      parts.map (trimChars isBlank) := by
  have hblank : isBlank ' ' = true := by decide
  induction parts with
  | nil => exact absurd rfl hne
  | cons part rest ih =>
      obtain ⟨hpart, hrest⟩ := List.forall_mem_cons.mp hparts
      cases rest with
      | nil => rw [List.intercalate_singleton, List.splitOn_eq_singleton hpart]
      | cons next others =>
          have hspaced : '+' ∉ part ++ [' '] := by simpa using hpart
          have htext : [' ', '+', ' '].intercalate (part :: next :: others) =
              (part ++ [' ']) ++ '+' :: ' ' :: [' ', '+', ' '].intercalate (next :: others) := by
            rw [List.intercalate_cons_cons]
            simp
          rw [htext, List.splitOn_append_cons_self_of_not_mem hspaced,
            List.splitOn_cons_eq_if_modifyHead, if_neg (by decide), List.map_cons,
            trimChars_concat_of_pos hblank, List.map_cons, ← ih (List.cons_ne_nil _ _) hrest]
          congr 1
          cases ([' ', '+', ' '].intercalate (next :: others)).splitOn '+' with
          | nil => rfl
          | cons first behind => simp [trimChars_cons_of_pos hblank]

end Pieces

/-! ### Terms that are written out -/

/-- The text of the term is one that is read as it stands: there is nothing in it to part and
nothing to trim. -/
structure Term.IsPlain (term : Term) : Prop where
  noPlus : '+' ∉ term.text.toList
  trimmed : trimBlanks term.text = term.text

/-- A term that is read from a piece without plus signs is plain. -/
theorem Term.isPlain_parse {piece : List Char} (hpiece : '+' ∉ piece) :
    (Term.parse (String.ofList piece)).IsPlain where
  noPlus := by
    obtain ⟨front, back, happend, -, -⟩ := trimChars_append isBlank piece
    intro hmem
    refine hpiece ?_
    rw [happend]
    simp only [Term.parse, trimBlanks, String.toList_ofList] at hmem
    exact List.mem_append_left _ (List.mem_append_right _ hmem)
  trimmed := by
    simp only [Term.parse, trimBlanks, String.toList_ofList, trimChars_trimChars]

namespace Operand

/-- The operand has a term, and its terms are plain. -/
structure IsPlain (operand : Operand) : Prop where
  nonempty : operand.terms ≠ []
  terms : ∀ term ∈ operand.terms, term.IsPlain

theorem isPlain_parse (text : String) : (parse text).IsPlain where
  nonempty := by
    simp [parse]
  terms term hterm := by
    obtain ⟨piece, hpiece, rfl⟩ := List.mem_map.mp hterm
    exact Term.isPlain_parse (mark_notMem_of_mem_splitOn hpiece)

/-- The terms of a text are its pieces between plus signs, trimmed. -/
theorem terms_parse (text : String) :
    (parse text).terms =
      ((text.toList.splitOn '+').map (trimChars isBlank)).map fun piece =>
        Term.mk (String.ofList piece) := by
  simp [parse, Term.parse, trimBlanks]

/-- A text has one term more than it has plus signs. -/
theorem length_terms_parse (text : String) :
    (parse text).terms.length = text.toList.count '+' + 1 := by
  rw [terms_parse, List.length_map, List.length_map, length_splitOn]

theorem IsPlain.parse_text {operand : Operand} (hplain : operand.IsPlain) :
    parse operand.text = operand := by
  have hpieces :
      (([' ', '+', ' '].intercalate (operand.terms.map (·.text.toList))).splitOn '+').map
        (trimChars isBlank) = (operand.terms.map (·.text.toList)).map (trimChars isBlank) :=
    trim_splitOn_spaced (by simpa using hplain.nonempty)
      (List.forall_mem_map.mpr fun term hterm => (hplain.terms term hterm).noPlus)
  have hterms : operand.terms.map (fun term => Term.mk (trimBlanks term.text)) =
      operand.terms := by
    refine (List.map_congr_left fun term hterm => ?_).trans (List.map_id _)
    exact congrArg Term.mk (hplain.terms term hterm).trimmed
  have hread : (parse operand.text).terms = operand.terms := by
    rw [terms_parse, text, String.toList_ofList, hpieces, List.map_map, List.map_map]
    exact hterms
  exact congrArg Operand.mk hread

/-- The operands that their texts read back to are those with plain terms. -/
theorem parse_text_iff {operand : Operand} : parse operand.text = operand ↔ operand.IsPlain := by
  refine ⟨fun hread => ?_, IsPlain.parse_text⟩
  rw [← hread]
  exact isPlain_parse operand.text

/-- Two texts with a plus sign between them are read one after the other, a text has one term
more than it has plus signs, and what is read is read again from its own text: whatever the
names, known or unknown, empty or with blanks around them. -/
theorem parse_joined_and_reread :
    (∀ first second : String,
      (parse (first ++ "+" ++ second)).terms = (parse first).terms ++ (parse second).terms) ∧
    (∀ text : String, (parse text).terms.length = text.toList.count '+' + 1) ∧
    ∀ text : String, parse (parse text).text = parse text := by
  refine ⟨fun first second => ?_, length_terms_parse, fun text => (isPlain_parse text).parse_text⟩
  have htext : (first ++ "+" ++ second).toList = first.toList ++ '+' :: second.toList := by
    simp
  rw [terms_parse, terms_parse, terms_parse, htext, List.splitOn_append_cons_self,
    List.map_append, List.map_append]

end Operand

end SkillTiers
