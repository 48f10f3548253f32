/-
# Keys of decisions are unambiguous

The parts of a key are joined by colons. A version may hold colons itself, but the
name of a policy and the digits of whole counts hold none, so the parts are told
apart from the right (`ResultCache.keyText_inj`). Every key begins with the text by
which all decisions are found again. There is a key as long as no count is an integer of too
many digits (`ResultCache.key_eq`).
-/

import SkillTiers.Cache.Results
import SkillTiers.Proofs.Json.Numeral
import SkillTiers.Proofs.Outcome
import SkillTiers.Request.Bodies

namespace SkillTiers

/-- The last separator tells what stands before it from what stands behind. -/
theorem append_separator_inj {Item : Type} {separator : Item}
    {front front' back back' : List Item}
    (htext : front ++ separator :: back = front' ++ separator :: back')
    (hback : separator ∉ back) (hback' : separator ∉ back') :
    front = front' ∧ back = back' := by
  rcases List.append_eq_append_iff.mp htext with ⟨between, hfront, hbehind⟩ |
    ⟨between, hfront, hbehind⟩
  · cases between with
    | nil =>
        rw [List.append_nil] at hfront
        exact ⟨hfront.symm, (List.cons.inj hbehind).2⟩
    | cons item rest =>
        -- The second separator would stand behind the first one.
        rw [List.cons_append] at hbehind
        refine absurd ?_ hback
        rw [(List.cons.inj hbehind).2]
        exact List.mem_append_right _ List.mem_cons_self
  · cases between with
    | nil =>
        rw [List.append_nil] at hfront
        exact ⟨hfront, (List.cons.inj hbehind).2.symm⟩
    | cons item rest =>
        rw [List.cons_append] at hbehind
        refine absurd ?_ hback'
        rw [(List.cons.inj hbehind).2]
        exact List.mem_append_right _ List.mem_cons_self

/-- The text of an integer holds no colon. -/
theorem colon_notMem_intChars (value : Int) : ':' ∉ intChars value := by
  have hdigits : ':' ∉ Nat.toDigits 10 value.natAbs := by
    intro hmem
    exact absurd (Numeral.allDigits_toDigits value.natAbs ':' hmem) (by decide)
  unfold intChars withSign
  split
  · intro hmem
    rcases List.mem_cons.mp hmem with h | h
    · exact absurd h (by decide)
    · exact hdigits h
  · exact hdigits

/-- Integers with one text are equal. -/
theorem intChars_inj {first second : Int} (htext : intChars first = intChars second) :
    first = second := by
  have hwritten : Json.writeNumber (.int first) ++ [] = Json.writeNumber (.int second) ++ [] :=
    congrArg (· ++ []) htext
  have h := (Json.writeNumber_append_inj hwritten Json.endsNumeral_nil Json.endsNumeral_nil).1
  exact Number.int.inj h

/-- A number has a text unless it is an integer of too many digits. -/
def Number.HasText : Number → Prop
  | .int value => value.natAbs < 10 ^ Numeral.maxDigits
  | .float _ => True

instance : DecidablePred Number.HasText
  | .int value => inferInstanceAs (Decidable (value.natAbs < 10 ^ Numeral.maxDigits))
  | .float _ => .isTrue trivial

theorem Number.checkText_eq (value : Number) :
    (Json.number value).checkText =
      if value.HasText then .ok () else .error (.tooManyDigits none) := by
  unfold Json.checkText
  cases value with
  | float value => simp [Json.allow, HasText, Outcome.ofWriting]
  | int value =>
      have hdigits := Nat.length_toDigits_le_iff (b := 10) (n := value.natAbs)
        (k := Numeral.maxDigits) (by decide) (by decide)
      rw [Json.allow, Json.allowInteger]
      by_cases htext : (Number.int value).HasText
      · rw [if_neg (Nat.not_lt.mpr (hdigits.mpr htext)), if_pos htext]
        rfl
      · rw [if_pos (Nat.lt_of_not_le (mt hdigits.mp htext)), if_neg htext]
        rfl

/-- Each of the counts has a text. -/
def Counts.HaveTexts (counts : Counts) : Prop :=
  ∀ count ∈ counts.named, count.2.HasText

instance (counts : Counts) : Decidable counts.HaveTexts :=
  inferInstanceAs (Decidable (∀ count ∈ counts.named, count.2.HasText))

theorem Counts.checkText_eq (counts : Counts) :
    counts.checkText = if counts.HaveTexts then .ok () else .error (.tooManyDigits none) :=
  forM_check (fun count => Number.checkText_eq count.2) counts.named

namespace ResultCache

/-- There is a key if each of the counts has a text. -/
theorem key_eq (version policy : String) (counts : Counts) :
    key version policy counts = if counts.HaveTexts then .ok (keyText version policy counts)
      else .error (.tooManyDigits none) := by
  unfold key
  rw [Counts.checkText_eq]
  split <;> rfl

/-- Where there is a key, it is looked up. -/
theorem get_of_haveTexts {counts : Counts} (htexts : counts.HaveTexts) (version policy : String) :
    get version policy counts = online none do
      let text? ← call (·.lookUp (keyText version policy counts))
      return text?.bind Tier.ofName? := by
  unfold get
  rw [key_eq, if_pos htexts]
  rfl

/-- Where there is a key, a tier is kept under it. -/
theorem set_of_haveTexts {counts : Counts} (htexts : counts.HaveTexts) (version policy : String)
    (tier : Tier) (ttl : Option Number) :
    set version policy counts tier ttl = online false do
      let default ← .look (·.defaultTtl)
      call fun server =>
        ((), server.put ⟨keyText version policy counts, clampTtl (ttl.getD default), tier.name⟩)
      return true := by
  unfold set
  rw [key_eq, if_pos htexts]
  rfl

/-- The characters of a key, each count behind a colon of its own. -/
private theorem keyText_toList (version policy : String) (high medium low total : Int) :
    (keyText version policy ⟨.int high, .int medium, .int low, .int total⟩).toList =
      ((((keyStart.toList ++ version.toList ++ ':' :: policy.toList) ++
        ':' :: intChars high) ++ ':' :: intChars medium) ++
        ':' :: intChars low) ++ ':' :: intChars total := by
  have hcolon : ":".toList = [':'] := rfl
  unfold keyText
  simp only [String.toList_append, hcolon, Number.text, Number.chars, String.toList_ofList,
    List.append_assoc, List.cons_append, List.nil_append]

/-- Equal keys have equal parts. -/
theorem keyText_inj {version version' policy policy' : String}
    {high high' medium medium' low low' total total' : Int}
    (hpolicy : ':' ∉ policy.toList) (hpolicy' : ':' ∉ policy'.toList)
    (hkey : keyText version policy ⟨.int high, .int medium, .int low, .int total⟩ =
      keyText version' policy' ⟨.int high', .int medium', .int low', .int total'⟩) :
    version = version' ∧ policy = policy' ∧ high = high' ∧ medium = medium' ∧ low = low' ∧
      total = total' := by
  have htext := congrArg String.toList hkey
  rw [keyText_toList, keyText_toList] at htext
  obtain ⟨htext, htotal⟩ :=
    append_separator_inj htext (colon_notMem_intChars _) (colon_notMem_intChars _)
  obtain ⟨htext, hlow⟩ :=
    append_separator_inj htext (colon_notMem_intChars _) (colon_notMem_intChars _)
  obtain ⟨htext, hmedium⟩ :=
    append_separator_inj htext (colon_notMem_intChars _) (colon_notMem_intChars _)
  obtain ⟨htext, hhigh⟩ :=
    append_separator_inj htext (colon_notMem_intChars _) (colon_notMem_intChars _)
  obtain ⟨htext, hpolicies⟩ := append_separator_inj htext hpolicy hpolicy'
  exact ⟨String.toList_inj.mp (List.append_cancel_left htext),
    String.toList_inj.mp hpolicies, intChars_inj hhigh, intChars_inj hmedium,
    intChars_inj hlow, intChars_inj htotal⟩

/-- Every key begins with the text that all keys begin with. -/
theorem keyStart_isPrefixOf_keyText (version policy : String) (counts : Counts) :
    keyStart.toList.isPrefixOf (keyText version policy counts).toList = true := by
  unfold keyText
  simp only [String.toList_append, List.append_assoc]
  exact List.isPrefixOf_iff_prefix.mpr (List.prefix_append _ _)

end ResultCache

/-- Policy names tell policies apart. -/
theorem ZeroTotalPolicy.name_inj {first second : ZeroTotalPolicy}
    (hname : first.name = second.name) : first = second := by
  cases first with
  | nan =>
      cases second with
      | nan => rfl
      | zero => exact absurd hname (by decide)
  | zero =>
      cases second with
      | nan => exact absurd hname (by decide)
      | zero => rfl

/-- No policy name holds a colon. -/
theorem ZeroTotalPolicy.colon_notMem_name (policy : ZeroTotalPolicy) :
    ':' ∉ policy.name.toList := by
  cases policy with
  | nan => decide
  | zero => decide

/-- Equal keys of whole counts under policies name one version, policy and counts. -/
theorem ResultCache.keyText_whole_inj {version version' : String}
    {policy policy' : ZeroTotalPolicy} {counts counts' : WholeCounts}
    (hkey : keyText version policy.name counts.toCounts =
      keyText version' policy'.name counts'.toCounts) :
    version = version' ∧ policy = policy' ∧ counts.toCounts = counts'.toCounts := by
  obtain ⟨hversion, hpolicy, hhigh, hmedium, hlow, htotal⟩ :=
    keyText_inj policy.colon_notMem_name policy'.colon_notMem_name hkey
  refine ⟨hversion, ZeroTotalPolicy.name_inj hpolicy, ?_⟩
  unfold WholeCounts.toCounts
  rw [hhigh, hmedium, hlow, htotal]

end SkillTiers
